import Greenhouse.Proofs.Channel.Dial

/-!
# The pace of dialing

A supervisor that has lost the channel, or could not get it, dials again when it has waited long
enough, or earlier when it is called.  `Pace` goes along with the channel and keeps, for every
supervisor, its last loss, and whether `connect` has been called since.

A call is not always heard by the wait for which it was meant.  It is left over when nobody waits
who could hear it, or when the one who was called ends its wait for another reason; and then it
cuts a later wait short.  The main statement is that dialing is hasty in this way and in no other,
and that it never is as long as no call is left over.
-/

namespace Greenhouse

/-- When a supervisor lost the channel, or could not get it. -/
structure Loss where
  time : Nat
  /-- Whether `connect` has been called since. -/
  called : Bool
deriving DecidableEq

/-- The loss after one more input. -/
def Loss.note (x : ChannelInput) (l : Loss) : Loss :=
  { l with called := l.called || decide (x = .connect) }

/-- A channel together with the losses after which supervisors have not dialed again yet. -/
structure Pace where
  channel : Channel
  loss? : Nat → Option Loss

namespace Pace

/-- One more input. -/
def step (p : Pace) (now : Nat) (x : ChannelInput) : Pace where
  channel := (p.channel.step now x).1
  loss? id :=
    if p.channel.loser? x = some id then some ⟨now, false⟩
    else if id ∈ p.channel.dialers now x then none
    else (p.loss? id).map (Loss.note x)

/-- The pace after a run of inputs, from a channel that nobody has asked to be opened. -/
def after (delay : Nat) (inputs : List (Nat × ChannelInput)) : Pace :=
  inputs.foldl (fun p (now, x) => p.step now x) ⟨.ofDelay delay, fun _ => none⟩

theorem after_append (delay : Nat) (inputs : List (Nat × ChannelInput)) (now : Nat)
    (x : ChannelInput) :
  after delay (inputs ++ [(now, x)]) = (after delay inputs).step now x
  := by
  rw [after, List.foldl_append]
  rfl

/-- The time for which supervisors wait. -/
def window (p : Pace) : Nat := waitLength p.channel.delay

/-- On an input, a supervisor dials before it has waited long enough since its loss, and without
a call since then. -/
def Hasty (p : Pace) (now : Nat) (x : ChannelInput) : Prop :=
  ∃ id ∈ p.channel.dialers now x, ∃ loss ∈ p.loss? id,
    loss.called = false ∧ now < loss.time + p.window

/-- A supervisor answers a call that is older than its loss. -/
def Stale (p : Pace) (now : Nat) (x : ChannelInput) : Prop :=
  ∃ id due called, x = .called id ∧ p.channel.phase id = .waiting due called ∧ now < due
    ∧ (called = true ∨ p.channel.permit = true) ∧ p.channel.halted = false
    ∧ ∃ loss ∈ p.loss? id, loss.called = false

/-! ### Losses and waits -/

/-- A supervisor waits exactly when it has not dialed since its loss, and until the time has
passed since then. -/
structure Sound (p : Pace) : Prop where
  channel : p.channel.Sound
  fits : ∀ id, p.channel.phase id ≠ .ended →
    (p.loss? id).map (fun loss => loss.time + p.window) = (p.channel.phase id).due?
  fresh : ∀ id, p.channel.fresh ≤ id → p.loss? id = none

variable {p : Pace} {now id : Nat} {x : ChannelInput}

theorem sound_nil (delay : Nat) :
  (after delay []).Sound
  := by
  constructor
  · apply Channel.sound_ofDelay
  · intro id hid
    apply absurd rfl hid
  · intro id _
    rfl

theorem loss?_step_of_loser (h : p.channel.loser? x = some id) :
  (p.step now x).loss? id = some ⟨now, false⟩
  := if_pos h

theorem loss?_step_of_dialer (h : id ∈ p.channel.dialers now x) :
  (p.step now x).loss? id = none
  := by
  have hloser : ¬ p.channel.loser? x = some id :=
    fun hloser => Channel.not_mem_dialers_of_loser hloser h
  simp only [step, if_neg hloser, if_pos h]

theorem loss?_step (hloser : ¬ p.channel.loser? x = some id) (hdialer : id ∉ p.channel.dialers now x) :
  (p.step now x).loss? id = (p.loss? id).map (Loss.note x)
  := by
  simp only [step, if_neg hloser, if_neg hdialer]

theorem window_step (p : Pace) (now : Nat) (x : ChannelInput) :
  (p.step now x).window = p.window
  := by
  rw [window, window, step, (p.channel.move_step now x).delay_eq]

theorem Sound.step (h : p.Sound) (now : Nat) (x : ChannelInput) :
  (p.step now x).Sound
  := by
  have hmove := p.channel.move_step now x
  constructor
  · apply h.channel.move hmove
  · intro id hlive
    rw [window_step]
    by_cases hloser : p.channel.loser? x = some id
    · rw [loss?_step_of_loser hloser, Pace.step, (Channel.phase_of_loser now hloser).2]
      rfl
    · by_cases hdialer : id ∈ p.channel.dialers now x
      · rw [loss?_step_of_dialer hdialer, Pace.step, Channel.phase_of_mem_dialers hdialer]
        rfl
      · rw [loss?_step hloser hdialer, Option.map_map]
        have hnote : ((fun loss : Loss => loss.time + p.window) ∘ Loss.note x)
            = fun loss => loss.time + p.window := rfl
        rw [hnote]
        cases hmove.fate h.channel.ids rfl id with
        | same phase =>
            rw [Pace.step, phase] at hlive ⊢
            apply h.fits id hlive
        | summoned before after =>
            rw [Pace.step, after, h.fits id (before ▸ nofun), before]
            rfl
        | busy live before after => rw [Pace.step, after, h.fits id live, before]
        | dials mem => contradiction
        | loses loser => contradiction
        | ends after => contradiction
        | begins fresh after =>
            rw [Pace.step, after, h.fresh id (Nat.le_of_eq fresh.symm)]
            rfl
  · intro id hid
    have hfresh : p.channel.fresh ≤ id := Nat.le_trans hmove.fresh_le hid
    have hloser : ¬ p.channel.loser? x = some id := by
      intro hloser
      have hlt := h.channel.lt_fresh (Channel.phase_of_loser now hloser).1
      omega
    have hdialer : id ∉ p.channel.dialers now x := by
      intro hdialer
      have hlt := h.channel.lt_fresh (Channel.mem_dialers_iff.mp hdialer).2.ne_ended
      omega
    rw [loss?_step hloser hdialer, h.fresh id hfresh]
    rfl

theorem sound_after (delay : Nat) (inputs : List (Nat × ChannelInput)) :
  (after delay inputs).Sound
  := by
  induction inputs using List.reverseRecOn with
  | nil => apply sound_nil
  | append_singleton inputs x ih =>
      rw [after_append]
      apply ih.step

/-! ### Hasty dialing -/

theorem hasty_iff_stale (h : p.Sound) (now : Nat) (x : ChannelInput) :
  p.Hasty now x ↔ p.Stale now x
  := by
  constructor
  · rintro ⟨id, hdialer, loss, hloss, hcalled, hearly⟩
    obtain ⟨hhalted, hcomes⟩ := Channel.mem_dialers_iff.mp hdialer
    have hfits := h.fits id hcomes.ne_ended
    rw [hloss, Option.map_some] at hfits
    cases hcomes with
    | start phase =>
        rw [phase] at hfits
        nomatch hfits
    | @called due called phase call =>
        rw [phase] at hfits
        have hdue := Option.some.inj hfits
        use id, due, called, rfl, phase, hdue ▸ hearly, call, hhalted, loss, hloss, hcalled
    | elapsed phase past =>
        rw [phase] at hfits
        have hdue := Option.some.inj hfits
        omega
  · rintro ⟨id, due, called, rfl, hphase, hearly, hcall, hhalted, loss, hloss, hcalled⟩
    have hcomes : p.channel.Comes now id (.called id) := .called hphase hcall
    have hfits := h.fits id hcomes.ne_ended
    rw [hloss, Option.map_some, hphase] at hfits
    have hdue := Option.some.inj hfits
    use id, Channel.mem_dialers_iff.mpr ⟨hhalted, hcomes⟩, loss, hloss, hcalled
    omega

/-- No call is left over: nobody waits who has not been called, and those who have been called
were called after their loss. -/
structure Clear (p : Pace) : Prop where
  permit : p.channel.permit = false
  called : ∀ id due, p.channel.phase id = .waiting due true → ∃ loss ∈ p.loss? id, loss.called = true

theorem not_stale_of_clear (h : p.Clear) (now : Nat) (x : ChannelInput) :
  ¬ p.Stale now x
  := by
  rintro ⟨id, due, called, rfl, hphase, _, hcall, _, loss, hloss, hcalled⟩
  obtain rfl | hpermit := hcall
  · obtain ⟨loss', hloss', hcalled'⟩ := h.called id due hphase
    obtain rfl := Option.mem_unique hloss hloss'
    rw [hcalled] at hcalled'
    nomatch hcalled'
  · rw [h.permit] at hpermit
    nomatch hpermit

theorem Clear.step (h : p.Clear) (hsound : p.Sound) {now : Nat} {x : ChannelInput}
    (hheard : ¬ p.channel.LeavesCall now x) :
  (p.step now x).Clear
  := by
  have hmove := p.channel.move_step now x
  constructor
  · apply hmove.permit_eq_false hheard h.permit
  · intro id due hphase
    have hloser : ¬ p.channel.loser? x = some id := by
      intro hloser
      rw [Pace.step, (Channel.phase_of_loser now hloser).2] at hphase
      nomatch hphase
    have hdialer : id ∉ p.channel.dialers now x := by
      intro hdialer
      rw [Pace.step, Channel.phase_of_mem_dialers hdialer] at hphase
      nomatch hphase
    have hafter : (p.channel.step now x).1.phase id = .waiting due true := hphase
    rw [loss?_step hloser hdialer]
    cases hmove.fate hsound.channel.ids rfl id with
    | same phase =>
        obtain ⟨loss, hloss, hcalled⟩ := h.called id due (phase.symm.trans hafter)
        use loss.note x, Option.mem_map_of_mem _ hloss
        simp [Loss.note, hcalled]
    | summoned before after call =>
        obtain rfl := call.resolve_right hheard
        have hfits := hsound.fits id (before ▸ nofun)
        rw [before] at hfits
        obtain ⟨loss, hloss, _⟩ := Option.map_eq_some_iff.mp hfits
        use loss.note .connect, Option.mem_map_of_mem _ hloss
        simp [Loss.note]
    | busy live before after =>
        rw [hafter] at after
        nomatch after
    | dials mem => contradiction
    | loses loser => contradiction
    | ends after =>
        rw [hafter] at after
        nomatch after
    | begins fresh after =>
        rw [hafter] at after
        nomatch after

theorem clear_after (delay : Nat) {inputs : List (Nat × ChannelInput)}
    (hheard : ∀ earlier now x, earlier ++ [(now, x)] <+: inputs →
      ¬ (after delay earlier).channel.LeavesCall now x) :
  (after delay inputs).Clear
  := by
  apply Channel.run_induction inputs
  · constructor
    · rfl
    · intro id due hphase
      nomatch hphase
  · intro earlier now x hbegins ih
    rw [after_append]
    apply ih.step (sound_after delay earlier) (hheard earlier now x hbegins)

/-- In every run, a supervisor dials hastily exactly when it answers a call that is older than its
loss.  As long as no call is left over, no supervisor dials hastily. -/
theorem hasty_iff (delay : Nat) (inputs : List (Nat × ChannelInput)) (now : Nat)
    (x : ChannelInput) :
  ((after delay inputs).Hasty now x ↔ (after delay inputs).Stale now x)
    ∧ ((∀ earlier now x, earlier ++ [(now, x)] <+: inputs →
        ¬ (after delay earlier).channel.LeavesCall now x) →
      ¬ (after delay inputs).Hasty now x)
  := by
  have hiff := hasty_iff_stale (sound_after delay inputs) now x
  use hiff
  intro hheard
  rw [hiff]
  apply not_stale_of_clear (clear_after delay hheard)

/-- `connect` is called twice before the supervisor first runs.  The attempt to dial fails. -/
def calledTwice : List (Nat × ChannelInput) :=
  [(0, .connect), (0, .connect), (0, .start 0), (5, .dialed 0 false)]

/-- The second call was made before the loss, and the supervisor dials at once. -/
theorem hasty_calledTwice :
  (after 1000 calledTwice).Hasty 5 (.called 0)
    ∧ (after 1000 calledTwice).loss? 0 = some ⟨5, false⟩
    ∧ (after 1000 calledTwice).channel.dialers 5 (.called 0) = [0]
  := by
  constructor
  · use 0
    constructor
    · decide +kernel
    · use ⟨5, false⟩
      decide +kernel
  · decide +kernel

end Pace

end Greenhouse
