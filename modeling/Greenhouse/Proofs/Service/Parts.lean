import Greenhouse.Proofs.Channel.Sound
import Greenhouse.Proofs.Service.Flow

/-!
# The parts by themselves

Whatever goes on in a bridge at work is, for each of its parts, either nothing or one of the inputs
that the part knows by itself.  So the channel and autosave of a bridge at work are what a channel
and autosave are anyway, and what holds of every channel holds of the channel of a bridge.
-/

namespace Greenhouse

/-- What an input is to the settings that are being edited. -/
def ServiceInput.settings? : ServiceInput → Option AutosaveInput
  | .settings x => some x
  | .start | .halt | .channel _ | .submit _ | .take | .pass | .beat | .tick | .order _
  | .reply _ _ => none

namespace Service

/-- What an input is to the channel. -/
def channelInput? (s : Service) : ServiceInput → Option ChannelInput
  | .start => if s.bridge.inbox.isSome then none else some .connect
  | .channel x => some x
  | .submit command => some (.send command.toWire)
  | .halt | .take | .pass | .beat | .tick | .order _ | .reply _ _ | .settings _ => none

section
variable (s : Service) (now : Nat) (x : ServiceInput)

theorem act_autosave (signal : Signal) :
  (s.act now signal).bridge.autosave = s.bridge.autosave
    ∧ (s.act now signal).bridge.channel = s.bridge.channel
  := by
  cases signal with
  | state state => constructor <;> rfl
  | inbound frame =>
      simp only [act, feed]
      split
      · split <;> constructor <;> rfl
      · constructor <;> rfl
      · constructor <;> rfl
      · constructor <;> rfl

/-- Autosave goes on by itself. -/
theorem autosave_step :
  (s.step now x).1.bridge.autosave
    = match x.settings? with
      | some y => (s.bridge.autosave.step y).1
      | none => s.bridge.autosave
  := by
  cases x with
  | start =>
      rw [step_start]
      split <;> rfl
  | channel | submit =>
      rw [step_of_drivesChannel _ _ rfl]
      rfl
  | halt =>
      simp only [step]
      split <;> rfl
  | take =>
      simp only [step]
      split
      · apply (s.act_autosave now _).1
      · rfl
  | pass =>
      simp only [step]
      split <;> rfl
  | beat =>
      simp only [step]
      split <;> rfl
  | reply order reply =>
      simp only [step]
      split
      · simp only
        rw [Bridge.finish_fst]
        rfl
      · rfl
  | tick | order | settings => rfl

/-- The channel goes on by itself. -/
theorem channel_step :
  (s.step now x).1.bridge.channel
    = match s.channelInput? x with
      | some y => (s.bridge.channel.step now y).1
      | none => s.bridge.channel
  := by
  cases x with
  | start =>
      rw [step_start, channelInput?]
      split <;> rfl
  | channel | submit =>
      simp only [step]
      rw [Bridge.absorbAll_fst]
      rfl
  | halt =>
      simp only [step]
      split <;> rfl
  | take =>
      simp only [step]
      split
      · apply (s.act_autosave now _).2
      · rfl
  | pass =>
      simp only [step]
      split <;> rfl
  | beat =>
      simp only [step]
      split <;> rfl
  | reply order reply =>
      simp only [step]
      split
      · simp only
        rw [Bridge.finish_fst]
        rfl
      · rfl
  | tick | order | settings => rfl

theorem channelEffects_eq :
  s.channelEffects now x
    = match s.channelInput? x with
      | some y => (s.bridge.channel.step now y).2
      | none => []
  := by
  cases x with
  | start =>
      rw [channelEffects, channelInput?, Bridge.start]
      split <;> rfl
  | channel | submit => rfl
  | halt | take | pass | beat | tick | order | reply | settings => rfl

end

variable {s : Service}

/-- What a channel keeps on every input holds of the channel of a bridge at work. -/
theorem channel_run_induction {P : Channel → Prop} (h : P s.bridge.channel)
    (step : ∀ c now x, P c → P (Channel.step c now x).1) (inputs : List (Nat × ServiceInput)) :
  P (s.run inputs).1.bridge.channel
  := by
  induction inputs using List.reverseRecOn with
  | nil => apply h
  | append_singleton inputs input ih =>
      obtain ⟨now, x⟩ := input
      rw [run_append_singleton]
      simp only [channel_step]
      split
      · apply step _ _ _ ih
      · apply ih

/-- What holds of every channel holds of the channel of a bridge at work. -/
theorem sound_channel_run (debounce window delay : Nat) (inputs : List (Nat × ServiceInput)) :
  ((ofBridge (.unstarted debounce window delay)).run inputs).1.bridge.channel.Sound
  := by
  apply channel_run_induction (Channel.sound_ofDelay delay)
  intro c now x h
  apply h.move (c.move_step now x)

end Service

end Greenhouse
