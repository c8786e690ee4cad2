import Greenhouse.Proofs.Channel.Dial

/-!
# Calls that overlap

A `stop` takes the supervisor away and waits for its end; meanwhile `connect` may start another
one.  `Custody` goes along with the channel and keeps the supervisors that have been taken.  They
should not dial any more, and the session of a supervisor that has not been taken should be left
alone.

Both can go wrong, because all supervisors look at one flag, and have one place for what takes
texts and for the state of the channel.  The main statement is that they go wrong by certain
inputs and by no others, and that none of these comes when `connect` is not called while a `stop`
is waiting.
-/

namespace Greenhouse

/-- A session has been established, and has not ended. -/
def Phase.Established : Phase → Prop
  | .opened _ | .writing _ _ | .closing _ => True
  | .created | .dialing | .waiting _ _ | .ended => False

theorem Phase.established_of_push {frame : Outgoing} {phase after : Phase}
    (h : phase.push frame = some after) :
  phase.Established
  := by
  cases phase with
  | opened | writing | closing => trivial
  | created | dialing | waiting | ended => nomatch h

namespace Channel

variable {c : Channel} {id : Nat}

theorem established_enter {other : Nat} (hlive : c.phase other ≠ .ended)
    {phase : Phase} (h : ((c.enter other phase).phase id).Established) :
  (id = other ∧ phase.Established) ∨ (id ≠ other ∧ (c.phase id).Established)
  := by
  rw [c.phase_enter hlive] at h
  split at h
  · next heq =>
      left
      use heq
  · next hne =>
      right
      use hne

/-- A supervisor that comes to dial has no session then. -/
theorem established_dial {other : Nat} (hlive : c.phase other ≠ .ended)
    (h : ((c.dial other).1.phase id).Established) :
  id ≠ other ∧ (c.phase id).Established
  := by
  obtain ⟨_, heq⟩ | ⟨_, heq⟩ := c.dial_cases other
  · rw [heq] at h
    apply (established_enter hlive h).resolve_left
    nofun
  · have hdialing : ((c.enter other .dialing).phase id).Established := by
      rw [heq] at h
      apply h
    apply (established_enter hlive hdialing).resolve_left
    nofun

theorem Calls.established_iff {b : Channel} (h : c.Calls b) (id : Nat) :
  (b.phase id).Established ↔ (c.phase id).Established
  := by
  obtain heq | ⟨due, hbefore, hafter⟩ := h.phase id
  · rw [heq]
  · rw [hbefore, hafter]
    rfl

/-- The `stop` that has been waiting for a supervisor is over, or the supervisor gets the channel, or
cannot get it, or loses it, or closes it. -/
inductive Meddles (c : Channel) (id : Nat) : ChannelInput → Prop
  | finish (stopping : id ∈ c.stopping) (ended : c.phase id = .ended) : Meddles c id (.finish id)
  | dialed {accepted : Bool} (phase : c.phase id = .dialing) : Meddles c id (.dialed id accepted)
  | loses {queue : List Outgoing} {x : ChannelInput} (loses : c.Loses id queue x) : Meddles c id x
  | closed {queue : List Outgoing} (phase : c.phase id = .closing queue) : Meddles c id (.closed id)

theorem Meddles.stopping_or_live {x : ChannelInput} (h : c.Meddles id x) :
  id ∈ c.stopping ∨ c.phase id ≠ .ended
  := by
  cases h with
  | finish stopping =>
      left
      apply stopping
  | dialed phase | closed phase =>
      right
      rw [phase]
      nofun
  | loses loses =>
      right
      apply loses.ne_ended

/-- Where a session comes from. -/
inductive Origin (c : Channel) (now : Nat) (x : ChannelInput) (b : Channel) (id : Nat) : Prop
  /-- It was there, and what takes texts and the state of the channel are as they were. -/
  | kept (before : (c.phase id).Established) (outlet : b.outlet = c.outlet)
    (state : b.state = c.state)
  /-- It was there, and another supervisor comes to dial, or meddles. -/
  | disturbed {other : Nat} (before : (c.phase id).Established) (ne : id ≠ other)
    (cause : c.Comes now other x ∨ c.Meddles other x)
  /-- It is new, and takes texts. -/
  | opened (outlet : b.outlet = some id) (state : b.state = .opened)

theorem Move.origin {b : Channel} {now : Nat} {x : ChannelInput} {effects : List ChannelEffect}
    (h : c.Move now x b effects) (hids : ∀ s ∈ c.supervisors, s.id < c.fresh) (hx : x ≠ .stop)
    (hafter : (b.phase id).Established) :
  c.Origin now x b id
  := by
  have henter {other : Nat} {phase before : Phase} (hphase : c.phase other = before)
      (hlive : before ≠ .ended) (hnext : ((c.enter other phase).phase id).Established) :
      (id = other ∧ phase.Established) ∨ (id ≠ other ∧ (c.phase id).Established) :=
    established_enter (hphase ▸ hlive) hnext
  cases h with
  | idle | refuse | receive | malformed => exact .kept hafter rfl rfl
  | halt | seize => contradiction
  | spawn =>
      rw [c.phase_spawn hids] at hafter
      split at hafter
      · exact hafter.elim
      · exact .kept hafter rfl rfl
  | summon =>
      have hcalls := c.calls_callOut
      exact .kept ((hcalls.established_iff id).mp hafter) (by rw [hcalls.shared])
        (by rw [hcalls.shared])
  | finish stopping phase =>
      have hbefore : (c.phase id).Established := hafter
      apply Origin.disturbed hbefore _ (.inr (.finish stopping phase))
      rintro rfl
      rw [phase] at hbefore
      apply hbefore
  | enqueue _ push =>
      obtain ⟨rfl, _⟩ | ⟨_, hbefore⟩ := henter rfl (Phase.of_push push).1 hafter
      · exact .kept (Phase.established_of_push push) rfl rfl
      · exact .kept hbefore rfl rfl
  | start phase =>
      obtain ⟨hne, hbefore⟩ := established_dial (by rw [c.phase_look, phase]; nofun) hafter
      rw [c.phase_look] at hbefore
      exact .disturbed hbefore hne (.inl (.start phase))
  | answer phase =>
      obtain ⟨hne, hbefore⟩ := established_dial (phase ▸ nofun) hafter
      exact .disturbed hbefore hne (.inl (.called phase (.inl rfl)))
  | rouse phase permit =>
      obtain ⟨hne, hbefore⟩ := established_dial (c := { c with permit := false })
        (phase ▸ nofun) hafter
      exact .disturbed hbefore hne (.inl (.called phase (.inr permit)))
  | @elapse other due called phase past =>
      have hcalls := c.calls_passOn called
      obtain ⟨hne, hbefore⟩ := established_dial (hcalls.ne_ended (phase ▸ nofun)) hafter
      exact .disturbed ((hcalls.established_iff id).mp hbefore) hne (.inl (.elapsed phase past))
  | opened phase =>
      obtain ⟨rfl, _⟩ | ⟨hne, hbefore⟩ := henter phase nofun hafter
      · exact .opened rfl rfl
      · exact .disturbed hbefore hne (.inr (.dialed phase))
  | failed phase =>
      obtain ⟨hne, hbefore⟩ := (henter phase nofun hafter).resolve_left nofun
      exact .disturbed hbefore hne (.inr (.dialed phase))
  | lose loses =>
      obtain ⟨hne, hbefore⟩ := (henter rfl loses.ne_ended hafter).resolve_left nofun
      exact .disturbed hbefore hne (.inr (.loses loses))
  | giveUp phase =>
      obtain ⟨_, hbefore⟩ := (henter phase nofun hafter).resolve_left nofun
      exact .kept hbefore rfl rfl
  | @leave other _ called phase =>
      have hcalls := (c.enter other .ended).calls_passOn called
      rw [hcalls.established_iff] at hafter
      obtain ⟨_, hbefore⟩ := (henter phase nofun hafter).resolve_left nofun
      exact .kept hbefore (by rw [hcalls.shared]; rfl) (by rw [hcalls.shared]; rfl)
  | @close other queue phase =>
      have hlive : c.phase other ≠ .ended := by
        rw [phase]
        nofun
      rw [c.phase_update other (f := fun s => { s with seen := c.version, phase := .closing queue })
        (fun _ => rfl) (fun _ => rfl) hlive] at hafter
      split at hafter
      · next heq =>
          subst heq
          exact .kept (phase ▸ trivial) rfl rfl
      · exact .kept hafter rfl rfl
  | closed phase =>
      obtain ⟨hne, hbefore⟩ := (henter phase nofun hafter).resolve_left nofun
      exact .disturbed hbefore hne (.inr (.closed phase))
  | take phase | written phase =>
      obtain ⟨rfl, _⟩ | ⟨_, hbefore⟩ := henter phase nofun hafter
      · exact .kept (phase ▸ trivial) rfl rfl
      · exact .kept hbefore rfl rfl

/-- After meddling, another supervisor goes on as it was, but does not take texts on an open
channel. -/
theorem Meddles.step {other : Nat} {x : ChannelInput} (h : c.Meddles other x) (hne : id ≠ other)
    (now : Nat) :
  (c.step now x).1.phase id = c.phase id
    ∧ ¬ ((c.step now x).1.outlet = some id ∧ (c.step now x).1.state = .opened)
  := by
  have hphase {phase after : Phase} (hphase : c.phase other = phase) (hlive : phase ≠ .ended) :
      (c.enter other after).phase id = c.phase id := by
    subst hphase
    rw [c.phase_enter hlive, if_neg hne]
  cases h with
  | finish stopping ended =>
      have hstep : c.step now (.finish other)
          = { c with stopping := c.stopping.erase other }.endStop := by
        rw [Channel.step, if_pos ⟨List.contains_iff_mem.mpr stopping, ended⟩]
      rw [hstep]
      use rfl
      rintro ⟨houtlet, _⟩
      cases houtlet
  | @dialed accepted phase =>
      cases accepted with
      | true =>
          have hstep : c.step now (.dialed other true) = c.openUp other := by
            simp only [Channel.step, phase, if_true]
          rw [hstep]
          use hphase phase (by simp)
          rintro ⟨houtlet, _⟩
          apply hne (Option.some.inj houtlet).symm
      | false =>
          simp only [Channel.step, phase]
          use hphase phase (by simp)
          rintro ⟨_, hstate⟩
          cases hstate
  | loses loses =>
      have hlive := loses.ne_ended
      cases loses with
      | lost phase | broken phase =>
          simp only [Channel.step, phase]
          use hphase rfl hlive
          rintro ⟨houtlet, _⟩
          cases houtlet
  | closed phase =>
      simp only [Channel.step, phase]
      use hphase phase (by simp)
      rintro ⟨houtlet, _⟩
      cases houtlet

end Channel

/-- A channel together with the supervisors that a `stop` has taken. -/
structure Custody where
  channel : Channel
  taken : List Nat

namespace Custody

/-- One more input. -/
def step (w : Custody) (now : Nat) (x : ChannelInput) : Custody where
  channel := (w.channel.step now x).1
  taken := (if x = .stop then w.channel.current.toList else []) ++ w.taken

/-- The custody after a run of inputs, from a channel that nobody has asked to be opened. -/
def after (delay : Nat) (inputs : List (Nat × ChannelInput)) : Custody :=
  inputs.foldl (fun w (now, x) => w.step now x) ⟨.ofDelay delay, []⟩

theorem after_append (delay : Nat) (inputs : List (Nat × ChannelInput)) (now : Nat)
    (x : ChannelInput) :
  after delay (inputs ++ [(now, x)]) = (after delay inputs).step now x
  := by
  rw [after, List.foldl_append]
  rfl

/-- A supervisor that has not been taken has a session. -/
structure Session (w : Custody) (id : Nat) : Prop where
  established : (w.channel.phase id).Established
  free : id ∉ w.taken

/-- Every session of a supervisor that has not been taken is left alone: the supervisor takes texts,
and the channel is open. -/
def Safe (w : Custody) : Prop :=
  ∀ id, w.Session id → w.channel.outlet = some id ∧ w.channel.state = .opened

/-- A supervisor that has been taken dials. -/
def Revives (w : Custody) (now : Nat) (x : ChannelInput) : Prop :=
  ∃ id ∈ w.taken, id ∈ w.channel.dialers now x

/-- An input by which calls get into each other's way: a supervisor that has been taken comes to
dial while the flag is not set, or there is meddling with a session. -/
def Trespasses (w : Custody) (now : Nat) (x : ChannelInput) : Prop :=
  (w.channel.halted = false ∧ ∃ id ∈ w.taken, w.channel.Comes now id x)
    ∨ ((∃ id ∈ w.taken, w.channel.Meddles id x) ∧ ∃ id, w.Session id)

/-! ### Supervisors that have been taken -/

/-- Those for whose end a `stop` is waiting have been taken, and the one that the next call deals
with has not. -/
structure Sound (w : Custody) : Prop where
  channel : w.channel.Sound
  stopping : ∀ id ∈ w.channel.stopping, id ∈ w.taken
  free : ∀ id ∈ w.channel.current, id ∉ w.taken
  fresh : ∀ id ∈ w.taken, id < w.channel.fresh

variable {w : Custody} {now id : Nat} {x : ChannelInput}

theorem sound_nil (delay : Nat) :
  (after delay []).Sound
  := by
  constructor
  · apply Channel.sound_ofDelay
  · nofun
  · nofun
  · nofun

theorem taken_step_of_ne (hx : x ≠ .stop) :
  (w.step now x).taken = w.taken
  := by
  simp [step, hx]

theorem taken_step_stop :
  (w.step now .stop).taken = w.channel.current.toList ++ w.taken
  := by
  simp [step]

theorem Sound.step (h : w.Sound) (now : Nat) (x : ChannelInput) :
  (w.step now x).Sound
  := by
  have hmove := w.channel.move_step now x
  by_cases hx : x = .stop
  · subst hx
    obtain ⟨hcurrent, _, _, hstopping⟩ := w.channel.step_stop now
    constructor
    · apply h.channel.move hmove
    · intro id hid
      rw [taken_step_stop]
      apply List.mem_append.mpr
      obtain hid | hid := hstopping id hid
      · right
        apply h.stopping id hid
      · left
        apply Option.mem_toList.mpr hid
    · intro id hid
      rw [Custody.step, hcurrent] at hid
      nomatch hid
    · intro id hid
      apply Nat.lt_of_lt_of_le _ hmove.fresh_le
      rw [taken_step_stop] at hid
      obtain hid | hid := List.mem_append.mp hid
      · apply h.channel.currentFresh id (Option.mem_toList.mp hid)
      · apply h.fresh id hid
  · obtain ⟨hstopping, hcurrent⟩ := hmove.current_or_fresh hx
    constructor
    · apply h.channel.move hmove
    · intro id hid
      rw [taken_step_of_ne hx]
      apply h.stopping id (hstopping id hid)
    · intro id hid
      rw [taken_step_of_ne hx]
      obtain hid | rfl := hcurrent id hid
      · apply h.free id hid
      · intro htaken
        apply Nat.lt_irrefl _ (h.fresh _ htaken)
    · intro id hid
      rw [taken_step_of_ne hx] at hid
      apply Nat.lt_of_lt_of_le (h.fresh id hid) hmove.fresh_le

theorem sound_after (delay : Nat) (inputs : List (Nat × ChannelInput)) :
  (after delay inputs).Sound
  := by
  induction inputs using List.reverseRecOn with
  | nil => apply sound_nil
  | append_singleton inputs x ih =>
      rw [after_append]
      apply ih.step

/-- A supervisor that has not ended has been taken, or is the one to deal with next. -/
theorem Sound.taken_or_current (h : w.Sound) (hlive : w.channel.phase id ≠ .ended) :
  id ∈ w.taken ∨ w.channel.current = some id
  := by
  obtain hcurrent | hstopping := h.channel.live id hlive
  · right
    apply hcurrent
  · left
    apply h.stopping id hstopping

theorem Session.current_eq (h : w.Session id) (hsound : w.Sound) :
  w.channel.current = some id
  := by
  apply (hsound.taken_or_current _).resolve_left h.free
  intro hended
  have hestablished := h.established
  rw [hended] at hestablished
  apply hestablished

/-- Next to a session, every other supervisor that has not ended has been taken. -/
theorem Session.taken_of_ne (h : w.Session id) (hsound : w.Sound) {other : Nat}
    (hlive : w.channel.phase other ≠ .ended) (hne : other ≠ id) :
  other ∈ w.taken
  := by
  apply (hsound.taken_or_current hlive).resolve_right
  rw [h.current_eq hsound]
  intro heq
  apply hne (Option.some.inj heq).symm

/-- Who meddles with the session of another supervisor has been taken. -/
theorem Session.mem_taken_of_meddles (h : w.Session id) (hsound : w.Sound) {other : Nat}
    (hmeddles : w.channel.Meddles other x) (hne : other ≠ id) :
  other ∈ w.taken
  := by
  obtain hstopping | hlive := hmeddles.stopping_or_live
  · apply hsound.stopping other hstopping
  · apply h.taken_of_ne hsound hlive hne

/-! ### Sessions that are left alone -/

/-- Sessions are left alone by an input that does not trespass. -/
theorem Safe.step (h : w.Safe) (hsound : w.Sound) (hx : ¬ w.Trespasses now x) :
  (w.step now x).Safe
  := by
  intro id ⟨hestablished, hfree⟩
  by_cases hstop : x = .stop
  · -- the one supervisor that had not been taken has been now
    subst hstop
    rw [taken_step_stop, List.mem_append, not_or] at hfree
    rw [Custody.step, (w.channel.step_stop now).2.2.1 id] at hestablished
    have hsession : w.Session id := ⟨hestablished, hfree.2⟩
    apply absurd (Option.mem_toList.mpr (hsession.current_eq hsound)) hfree.1
  · rw [taken_step_of_ne hstop] at hfree
    cases (w.channel.move_step now x).origin hsound.channel.ids hstop hestablished with
    | kept before outlet state =>
        rw [Custody.step, outlet, state]
        apply h id ⟨before, hfree⟩
    | @disturbed other before ne cause =>
        have hsession : w.Session id := ⟨before, hfree⟩
        apply absurd _ hx
        obtain hcomes | hmeddles := cause
        · left
          use hsound.channel.unhalted id (hsession.current_eq hsound), other,
            hsession.taken_of_ne hsound hcomes.ne_ended ne.symm
        · right
          constructor
          · use other, hsession.mem_taken_of_meddles hsound hmeddles ne.symm
          · use id
    | opened outlet state => exact ⟨outlet, state⟩

/-- By an input that trespasses, a supervisor that has been taken dials, or a session is not left
alone. -/
theorem not_safe_of_trespasses (hx : w.Trespasses now x) (hdials : ¬ w.Revives now x) :
  ¬ (w.step now x).Safe
  := by
  intro hsafe
  obtain ⟨hhalted, other, htaken, hcomes⟩ | ⟨⟨other, htaken, hmeddles⟩, id, hsession⟩ := hx
  · apply hdials
    use other, htaken, Channel.mem_dialers_iff.mpr ⟨hhalted, hcomes⟩
  · have hne : id ≠ other := by
      rintro rfl
      apply hsession.free htaken
    obtain ⟨hphase, hopen⟩ := hmeddles.step hne now
    have hstop : x ≠ .stop := by
      rintro rfl
      cases hmeddles with
      | loses loses => nomatch loses
    apply hopen
    apply hsafe id
    constructor
    · rw [Custody.step, hphase]
      apply hsession.established
    · rw [taken_step_of_ne hstop]
      apply hsession.free

/-! ### Calls that do not overlap -/

/-- While a `stop` is waiting, there is no supervisor to deal with, and the flag is set. -/
def Apart (w : Custody) : Prop :=
  w.channel.stopping ≠ [] → w.channel.current = none ∧ w.channel.halted = true

theorem Apart.step (h : w.Apart) (hx : x = .connect → w.channel.stopping = []) :
  (w.step now x).Apart
  := by
  intro hstopping
  by_cases hstop : x = .stop
  · subst hstop
    obtain ⟨hcurrent, hhalted, _⟩ := w.channel.step_stop now
    exact ⟨hcurrent, hhalted⟩
  · rw [Custody.step] at hstopping ⊢
    obtain hkeeps | ⟨hconnect, _, heq⟩ | ⟨rfl, _⟩ | ⟨_, rfl, _⟩ | ⟨id, _, hmem, _, heq⟩ :=
      (w.channel.move_step now x).keeps_or
    · rw [hkeeps.stopping] at hstopping
      rw [hkeeps.current, hkeeps.halted]
      apply h hstopping
    · rw [heq] at hstopping
      apply absurd (hx hconnect) hstopping
    · contradiction
    · contradiction
    · rw [heq]
      apply h (List.ne_nil_of_mem hmem)

theorem Apart.not_trespasses (h : w.Apart) (hsound : w.Sound) :
  ¬ w.Trespasses now x
  := by
  have hset {id : Nat} (htaken : id ∈ w.taken)
      (hid : id ∈ w.channel.stopping ∨ w.channel.phase id ≠ .ended) :
      w.channel.current = none ∧ w.channel.halted = true := by
    apply h
    apply List.ne_nil_of_mem
    obtain hstopping | hlive := hid
    · apply hstopping
    · apply (hsound.channel.live id hlive).resolve_left
      intro hcurrent
      apply hsound.free id hcurrent htaken
  rintro (⟨hhalted, id, htaken, hcomes⟩ | ⟨⟨other, htaken, hmeddles⟩, id, hsession⟩)
  · rw [(hset htaken (.inr hcomes.ne_ended)).2] at hhalted
    nomatch hhalted
  · have hnone := (hset htaken hmeddles.stopping_or_live).1
    rw [hsession.current_eq hsound] at hnone
    nomatch hnone

/-! ### Runs -/

variable {delay : Nat} {inputs : List (Nat × ChannelInput)}

/-- All through a run, supervisors that have been taken do not dial, and the sessions of the others
are left alone. -/
structure Orderly (delay : Nat) (inputs : List (Nat × ChannelInput)) : Prop where
  safe : ∀ earlier, earlier <+: inputs → (after delay earlier).Safe
  retired : ∀ earlier now x, earlier ++ [(now, x)] <+: inputs → ¬ (after delay earlier).Revives now x

theorem Revives.trespasses (h : w.Revives now x) :
  w.Trespasses now x
  := by
  obtain ⟨id, htaken, hdialer⟩ := h
  obtain ⟨hhalted, hcomes⟩ := Channel.mem_dialers_iff.mp hdialer
  left
  use hhalted, id

theorem safe_after
    (h : ∀ earlier now x, earlier ++ [(now, x)] <+: inputs →
      ¬ (after delay earlier).Trespasses now x) :
  (after delay inputs).Safe
  := by
  apply Channel.run_induction inputs
  · intro id hsession
    apply hsession.established.elim
  · intro earlier now x hbegins ih
    rw [after_append]
    apply ih.step (sound_after delay earlier) (h earlier now x hbegins)

theorem orderly_of_not_trespasses
    (h : ∀ earlier now x, earlier ++ [(now, x)] <+: inputs →
      ¬ (after delay earlier).Trespasses now x) :
  Orderly delay inputs
  := by
  constructor
  · intro earlier hearlier
    apply safe_after
    intro earlier' now x hbegins
    apply h earlier' now x (hbegins.trans hearlier)
  · intro earlier now x hbegins hrevives
    apply h earlier now x hbegins hrevives.trespasses

theorem Orderly.not_trespasses (h : Orderly delay inputs) {earlier : List (Nat × ChannelInput)}
    (hbegins : earlier ++ [(now, x)] <+: inputs) :
  ¬ (after delay earlier).Trespasses now x
  := by
  intro htrespasses
  apply not_safe_of_trespasses htrespasses (h.retired earlier now x hbegins)
  rw [← after_append]
  apply h.safe _ hbegins

theorem apart_after
    (h : ∀ earlier now, earlier ++ [(now, .connect)] <+: inputs →
      (after delay earlier).channel.stopping = []) :
  (after delay inputs).Apart
  := by
  apply Channel.run_induction inputs
  · intro hstopping
    apply absurd rfl hstopping
  · intro earlier now x hbegins ih
    rw [after_append]
    apply ih.step
    rintro rfl
    apply h earlier now hbegins

/-- A run is orderly exactly when no input trespasses, and it is orderly if `connect` is never
called while a `stop` is waiting. -/
theorem orderly_iff (delay : Nat) (inputs : List (Nat × ChannelInput)) :
  (Orderly delay inputs ↔ ∀ earlier now x, earlier ++ [(now, x)] <+: inputs →
      ¬ (after delay earlier).Trespasses now x)
    ∧ ((∀ earlier now, earlier ++ [(now, .connect)] <+: inputs →
        (after delay earlier).channel.stopping = []) →
      Orderly delay inputs)
  := by
  constructor
  · constructor
    · intro h earlier now x hbegins
      apply h.not_trespasses hbegins
    · apply orderly_of_not_trespasses
  · intro h
    apply orderly_of_not_trespasses
    intro earlier now x hbegins
    apply Apart.not_trespasses _ (sound_after delay earlier)
    apply apart_after
    intro earlier' now' hbegins'
    apply h earlier' now' (hbegins'.trans ((List.prefix_append _ _).trans hbegins))

/-- A supervisor is taken before it first runs, and `connect` is called once more. -/
def calledAgain : List (Nat × ChannelInput) :=
  [(0, .connect), (0, .stop), (0, .connect)]

/-- While a `stop` waits for a supervisor to close its session, another one establishes a
session. -/
def closedLate : List (Nat × ChannelInput) :=
  [(0, .connect), (0, .start 0), (1, .dialed 0 true), (2, .stop), (2, .noticed 0), (2, .connect),
    (2, .start 1), (3, .dialed 1 true), (4, .closed 0)]

/-- When it first runs, the supervisor that has been taken dials.  When the late session is closed,
the other one does not take texts any more. -/
theorem not_orderly_calledAgain_closedLate :
  ((after 1000 calledAgain).Revives 0 (.start 0)
      ∧ ¬ Orderly 1000 (calledAgain ++ [(0, .start 0)]))
    ∧ (after 1000 closedLate).Session 1 ∧ (after 1000 closedLate).channel.outlet = none
    ∧ ¬ Orderly 1000 closedLate
  := by
  have hrevives : (after 1000 calledAgain).Revives 0 (.start 0) := by
    use 0
    decide +kernel
  have hsession : (after 1000 closedLate).Session 1 := by
    constructor
    · have hphase : (after 1000 closedLate).channel.phase 1 = .opened [] := by decide +kernel
      rw [hphase]
      trivial
    · decide +kernel
  have houtlet : (after 1000 closedLate).channel.outlet = none := by decide +kernel
  refine ⟨⟨hrevives, ?_⟩, hsession, houtlet, ?_⟩
  · intro horderly
    apply horderly.retired calledAgain 0 (.start 0) (List.prefix_refl _) hrevives
  · intro horderly
    have hsafe := (horderly.safe closedLate (List.prefix_refl _) 1 hsession).1
    rw [houtlet] at hsafe
    nomatch hsafe

end Custody

end Greenhouse
