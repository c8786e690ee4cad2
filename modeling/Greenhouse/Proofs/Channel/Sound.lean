import Mathlib.Data.List.Induction
import Greenhouse.Proofs.Channel.Move

/-!
# What holds of every channel

A supervisor that has not ended is the one that the next call deals with, or a `stop` is waiting
for its end.  The flag is not set while there is a supervisor to deal with, and that supervisor
has nothing to notice.
-/

namespace Greenhouse

namespace Channel

/-- A supervisor that has begun to look at the flag, and has not ended, has seen it as it is. -/
def Calm (c : Channel) (id : Nat) : Prop :=
  c.phase id = .created ∨ c.phase id = .ended ∨ c.isNews id = false

/-- What holds of every channel. -/
structure Sound (c : Channel) : Prop where
  ids : ∀ s ∈ c.supervisors, s.id < c.fresh
  distinct : (c.supervisors.map Supervisor.id).Nodup
  currentFresh : ∀ id ∈ c.current, id < c.fresh
  stoppingFresh : ∀ id ∈ c.stopping, id < c.fresh
  notStopping : ∀ id ∈ c.current, id ∉ c.stopping
  unhalted : ∀ id ∈ c.current, c.halted = false
  calm : ∀ id ∈ c.current, c.Calm id
  live : ∀ id, c.phase id ≠ .ended → c.current = some id ∨ id ∈ c.stopping

/-- Supervisors go on, but none is new, and none is stopped. -/
structure Keeps (c b : Channel) : Prop where
  ids : b.supervisors.map Supervisor.id = c.supervisors.map Supervisor.id
  fresh : c.fresh ≤ b.fresh
  current : b.current = c.current
  stopping : b.stopping = c.stopping
  halted : b.halted = c.halted
  delay : b.delay = c.delay
  live : ∀ id, b.phase id ≠ .ended → c.phase id ≠ .ended
  calm : ∀ id, c.Calm id → b.Calm id

variable {c b : Channel} {now : Nat} {x : ChannelInput} {effects : List ChannelEffect}

theorem Keeps.trans {d : Channel} (h : c.Keeps b) (h' : b.Keeps d) :
  c.Keeps d
  where
    ids := h'.ids.trans h.ids
    fresh := Nat.le_trans h.fresh h'.fresh
    current := h'.current.trans h.current
    stopping := h'.stopping.trans h.stopping
    halted := h'.halted.trans h.halted
    delay := h'.delay.trans h.delay
    live id hid := h.live id (h'.live id hid)
    calm id hid := h'.calm id (h.calm id hid)

/-- What listeners hear, and who takes texts, does not matter to supervisors. -/
theorem keeps_with (c : Channel) (state : ConnectionState) (outlet : Option Nat) (permit : Bool)
    {fresh : Nat} (hfresh : c.fresh ≤ fresh) :
  c.Keeps { c with state, outlet, permit, fresh }
  := by
  constructor
  · rfl
  · apply hfresh
  · rfl
  · rfl
  · rfl
  · rfl
  · exact fun _ => id
  · exact fun _ => id

theorem keeps_enter {id : Nat} (hlive : c.phase id ≠ .ended) {phase : Phase}
    (hcalm : c.phase id ≠ .created ∨ c.isNews id = false ∨ phase = .ended) :
  c.Keeps (c.enter id phase)
  := by
  constructor
  · apply c.ids_update id (f := fun s => { s with phase }) fun _ => rfl
  · apply Nat.le_refl
  · rfl
  · rfl
  · rfl
  · rfl
  · intro other hother
    rw [c.phase_enter hlive] at hother
    split at hother
    · next heq => rwa [heq]
    · apply hother
  · intro other hother
    rw [Calm, c.phase_enter hlive, c.isNews_enter]
    split
    · next heq =>
        subst heq
        obtain hbegun | hnews | hended := hcalm
        · obtain hcreated | hended | hnews := hother
          · contradiction
          · contradiction
          · right; right
            apply hnews
        · right; right
          apply hnews
        · right; left
          apply hended
    · apply hother

theorem Calls.keeps (h : c.Calls b) :
  c.Keeps b
  := by
  constructor
  · apply h.ids
  · apply Nat.le_of_eq
    rw [h.shared]
  · rw [h.shared]
  · rw [h.shared]
  · rw [h.shared]
  · rw [h.shared]
  · intro id hlive hended
    apply hlive
    rwa [h.phase_eq_iff (by simp)]
  · intro id hcalm
    rwa [Calm, h.phase_eq_iff (by simp), h.phase_eq_iff (by simp), h.news]

theorem keeps_dial {id : Nat} (hlive : c.phase id ≠ .ended)
    (hcalm : c.phase id ≠ .created ∨ c.isNews id = false) :
  c.Keeps (c.dial id).1
  := by
  obtain ⟨_, heq⟩ | ⟨_, heq⟩ := c.dial_cases id
  · rw [heq]
    apply keeps_enter hlive (.inr (.inr rfl))
  · rw [heq]
    have hdialing : c.Keeps (c.enter id .dialing) := by
      apply keeps_enter hlive
      obtain hbegun | hnews := hcalm
      · left
        apply hbegun
      · right; left
        apply hnews
    apply hdialing.trans (keeps_with _ _ _ _ (Nat.le_refl _))

/-- A supervisor looks at the flag. -/
theorem keeps_look {id : Nat} (hlive : c.phase id ≠ .ended) {f : Supervisor → Supervisor}
    (hid : ∀ s, (f s).id = s.id) (hseen : ∀ s, (f s).seen = c.version) :
  c.Keeps (c.update id f) ∧ (c.update id f).isNews id = false
  := by
  have hnews : (c.update id f).isNews id = false := by
    rw [isNews, c.supervisor?_update id hid, if_pos rfl]
    cases c.supervisor? id <;> simp [hseen, update]
  refine ⟨?_, hnews⟩
  constructor
  · apply c.ids_update id hid
  · apply Nat.le_refl
  · rfl
  · rfl
  · rfl
  · rfl
  · intro other hother
    by_cases heq : other = id
    · rwa [heq]
    · rw [Channel.phase, c.supervisor?_update id hid, if_neg heq] at hother
      apply hother
  · intro other hother
    by_cases heq : other = id
    · right; right
      rwa [heq]
    · rw [Calm, Channel.phase, isNews, c.supervisor?_update id hid, if_neg heq]
      apply hother

/-- Supervisors go on, or there is a new one, or one is stopped, or a stop is over. -/
theorem Move.keeps_or (h : c.Move now x b effects) :
  c.Keeps b
    ∨ (x = .connect ∧ c.Vacant ∧ b = c.spawn)
    ∨ (x = .stop ∧ c.Vacant
      ∧ b = { c.setHalted true with current := none, outlet := none, state := .closed })
    ∨ (∃ id, x = .stop ∧ c.current = some id ∧ c.phase id ≠ .ended
      ∧ b = { c.setHalted true with current := none, stopping := c.stopping ++ [id] })
    ∨ ∃ id, x = .finish id ∧ id ∈ c.stopping ∧ c.phase id = .ended
      ∧ b = { c with stopping := c.stopping.erase id, outlet := none, state := .closed }
  := by
  have hgoes {id : Nat} {phase after : Phase} (hphase : c.phase id = phase)
      (hbusy : phase ≠ .ended ∧ phase ≠ .created) (state : ConnectionState)
      (outlet : Option Nat) : c.Keeps { c.enter id after with state, outlet } :=
    (keeps_enter (hphase ▸ hbusy.1) (.inl (hphase ▸ hbusy.2))).trans
      (keeps_with _ state outlet _ (Nat.le_refl _))
  have hdials {d : Channel} {id : Nat} {phase : Phase} (h : c.Keeps d) (hphase : d.phase id = phase)
      (hbusy : phase ≠ .ended ∧ phase ≠ .created) : c.Keeps (d.dial id).1 :=
    h.trans (keeps_dial (hphase ▸ hbusy.1) (.inl (hphase ▸ hbusy.2)))
  cases h with
  | spawn vacant => exact .inr (.inl ⟨rfl, vacant, rfl⟩)
  | halt vacant => exact .inr (.inr (.inl ⟨rfl, vacant, rfl⟩))
  | seize current live => exact .inr (.inr (.inr (.inl ⟨_, rfl, current, live, rfl⟩)))
  | finish stopping phase => exact .inr (.inr (.inr (.inr ⟨_, rfl, stopping, phase, rfl⟩)))
  | idle => exact .inl (calls_self c).keeps
  | receive => exact .inl (calls_self c).keeps
  | malformed => exact .inl (calls_self c).keeps
  | summon => exact .inl (calls_callOut c).keeps
  | refuse => exact .inl (keeps_with c _ _ _ (Nat.le_succ _))
  | enqueue _ push =>
      obtain ⟨hlive, hbegun⟩ := Phase.of_push push
      exact .inl ((keeps_enter hlive (.inl hbegun)).trans (keeps_with _ _ _ _ (Nat.le_succ _)))
  | @start id phase =>
      left
      have hlive : c.phase id ≠ .ended := by
        rw [phase]
        nofun
      obtain ⟨hlook, hnews⟩ := keeps_look hlive (f := fun s => { s with seen := c.version })
        (fun _ => rfl) fun _ => rfl
      apply hlook.trans (keeps_dial _ (.inr hnews))
      rw [phase_look, phase]
      nofun
  | answer phase => exact .inl (hdials (calls_self c).keeps phase ⟨nofun, nofun⟩)
  | rouse phase =>
      left
      apply hdials (keeps_with c c.state c.outlet false (Nat.le_refl _)) phase ⟨nofun, nofun⟩
  | @elapse _ _ called phase =>
      left
      have hcalls := c.calls_passOn called
      apply hcalls.keeps.trans (keeps_dial _ (.inl _))
      · exact hcalls.ne_ended (phase ▸ nofun)
      · rw [Ne, hcalls.phase_eq_iff (by simp), phase]
        nofun
  | opened phase => exact .inl (hgoes phase ⟨nofun, nofun⟩ _ _)
  | failed phase => exact .inl (hgoes phase ⟨nofun, nofun⟩ _ _)
  | lose loses =>
      left
      cases loses with
      | lost phase => exact hgoes phase ⟨nofun, nofun⟩ _ _
      | broken phase => exact hgoes phase ⟨nofun, nofun⟩ _ _
  | giveUp phase => exact .inl (hgoes phase ⟨nofun, nofun⟩ _ _)
  | leave phase => exact .inl ((hgoes phase ⟨nofun, nofun⟩ _ _).trans (calls_passOn _ _).keeps)
  | close phase =>
      left
      apply (keeps_look _ _ _).1
      · rw [phase]
        nofun
      · intro s
        rfl
      · intro s
        rfl
  | closed phase => exact .inl (hgoes phase ⟨nofun, nofun⟩ _ _)
  | take phase => exact .inl (hgoes phase ⟨nofun, nofun⟩ _ _)
  | written phase => exact .inl (hgoes phase ⟨nofun, nofun⟩ _ _)

theorem Move.delay_eq (h : c.Move now x b effects) :
  b.delay = c.delay
  := by
  obtain hkeeps | ⟨_, _, rfl⟩ | ⟨_, _, rfl⟩ | ⟨_, _, _, _, rfl⟩ | ⟨_, _, _, _, rfl⟩ := h.keeps_or
  · apply hkeeps.delay
  · rfl
  · rfl
  · rfl
  · rfl

theorem Move.fresh_le (h : c.Move now x b effects) :
  c.fresh ≤ b.fresh
  := by
  obtain hkeeps | ⟨_, _, rfl⟩ | ⟨_, _, rfl⟩ | ⟨_, _, _, _, rfl⟩ | ⟨_, _, _, _, rfl⟩ := h.keeps_or
  · apply hkeeps.fresh
  · apply Nat.le_succ
  · apply Nat.le_refl
  · apply Nat.le_refl
  · apply Nat.le_refl

/-- Except by `stop`, no supervisor is stopped, and only a new one is to be dealt with next. -/
theorem Move.current_or_fresh (h : c.Move now x b effects) (hx : x ≠ .stop) :
  (∀ id ∈ b.stopping, id ∈ c.stopping) ∧ ∀ id ∈ b.current, c.current = some id ∨ id = c.fresh
  := by
  obtain hkeeps | ⟨_, _, rfl⟩ | ⟨rfl, _⟩ | ⟨_, rfl, _⟩ | ⟨_, _, _, _, rfl⟩ := h.keeps_or
  · rw [hkeeps.stopping, hkeeps.current]
    use fun _ => id
    intro id hid
    left
    apply hid
  · use fun _ => id
    intro id hid
    right
    apply (Option.some.inj hid).symm
  · contradiction
  · contradiction
  · use fun id hid => List.mem_of_mem_erase hid
    intro id hid
    left
    apply hid

theorem Sound.of_keeps (h : c.Sound) (hkeeps : c.Keeps b) :
  b.Sound
  := by
  have hcurrent {id : Nat} (hid : id ∈ b.current) : id ∈ c.current := by
    rwa [hkeeps.current] at hid
  constructor
  · intro s hs
    have hmem : s.id ∈ c.supervisors.map Supervisor.id := by
      rw [← hkeeps.ids]
      apply List.mem_map_of_mem hs
    obtain ⟨s', hs', heq⟩ := List.mem_map.mp hmem
    rw [← heq]
    apply Nat.lt_of_lt_of_le (h.ids s' hs') hkeeps.fresh
  · rw [hkeeps.ids]
    apply h.distinct
  · intro id hid
    apply Nat.lt_of_lt_of_le (h.currentFresh id (hcurrent hid)) hkeeps.fresh
  · intro id hid
    rw [hkeeps.stopping] at hid
    apply Nat.lt_of_lt_of_le (h.stoppingFresh id hid) hkeeps.fresh
  · intro id hid
    rw [hkeeps.stopping]
    apply h.notStopping id (hcurrent hid)
  · intro id hid
    rw [hkeeps.halted]
    apply h.unhalted id (hcurrent hid)
  · intro id hid
    apply hkeeps.calm id (h.calm id (hcurrent hid))
  · intro id hid
    rw [hkeeps.current, hkeeps.stopping]
    apply h.live id (hkeeps.live id hid)

theorem Sound.spawn (h : c.Sound) (hvacant : c.Vacant) :
  c.spawn.Sound
  := by
  have hphase := c.phase_spawn h.ids
  have hstopping {id : Nat} (hid : id ∈ c.stopping) : id < c.fresh + 1 :=
    Nat.lt_succ_of_lt (h.stoppingFresh id hid)
  constructor
  · intro s hs
    obtain hs | hs := List.mem_append.mp hs
    · apply Nat.lt_succ_of_lt (h.ids s hs)
    · rw [List.mem_singleton.mp hs]
      apply Nat.lt_succ_self
  · simp only [Channel.spawn, setHalted, List.map_append, List.map_singleton]
    apply List.nodup_append.mpr
    use h.distinct, List.pairwise_singleton _ _
    intro id hid other hother
    obtain ⟨s, hs, rfl⟩ := List.mem_map.mp hid
    rw [List.mem_singleton.mp hother]
    apply Nat.ne_of_lt (h.ids s hs)
  · intro id hid
    obtain rfl := Option.some.inj hid
    apply Nat.lt_succ_self
  · intro id hid
    apply hstopping hid
  · intro id hid hmem
    obtain rfl := Option.some.inj hid
    apply Nat.lt_irrefl _ (h.stoppingFresh _ hmem)
  · intro id hid
    rfl
  · intro id hid
    obtain rfl := Option.some.inj hid
    left
    rw [hphase]
    apply if_pos rfl
  · intro id hid
    rw [hphase] at hid
    split at hid
    · next heq =>
        left
        rw [heq]
        rfl
    · right
      obtain hcurrent | hmem := h.live id hid
      · apply absurd (hvacant id hcurrent) hid
      · apply hmem

theorem Sound.move (h : c.Sound) (hmove : c.Move now x b effects) :
  b.Sound
  := by
  obtain hkeeps | ⟨_, hvacant, rfl⟩ | ⟨_, hvacant, rfl⟩ | ⟨id, _, hcurrent, hlive, rfl⟩
    | ⟨id, _, hmem, hended, rfl⟩ := hmove.keeps_or
  · apply h.of_keeps hkeeps
  · apply h.spawn hvacant
  · constructor
    · apply h.ids
    · apply h.distinct
    · nofun
    · apply h.stoppingFresh
    · nofun
    · nofun
    · nofun
    · intro id hid
      right
      obtain hcurrent | hmem := h.live id hid
      · apply absurd (hvacant id hcurrent) hid
      · apply hmem
  · constructor
    · apply h.ids
    · apply h.distinct
    · nofun
    · intro other hother
      obtain hother | hother := List.mem_append.mp hother
      · apply h.stoppingFresh other hother
      · rw [List.mem_singleton.mp hother]
        apply h.currentFresh id hcurrent
    · nofun
    · nofun
    · nofun
    · intro other hother
      right
      obtain heq | hmem := h.live other hother
      · rw [hcurrent] at heq
        rw [Option.some.inj heq]
        apply List.mem_append_right _ (List.mem_singleton.mpr rfl)
      · apply List.mem_append_left _ hmem
  · constructor
    · apply h.ids
    · apply h.distinct
    · apply h.currentFresh
    · intro other hother
      apply h.stoppingFresh other (List.mem_of_mem_erase hother)
    · intro other hother hmem
      apply h.notStopping other hother (List.mem_of_mem_erase hmem)
    · apply h.unhalted
    · apply h.calm
    · intro other hother
      obtain heq | hmem := h.live other hother
      · left
        apply heq
      · right
        apply (List.mem_erase_of_ne _).mpr hmem
        rintro rfl
        apply hother hended

/-- The number of a supervisor that has not ended has been given out. -/
theorem Sound.lt_fresh (h : c.Sound) {id : Nat} (hlive : c.phase id ≠ .ended) :
  id < c.fresh
  := by
  obtain hcurrent | hmem := h.live id hlive
  · apply h.currentFresh id hcurrent
  · apply h.stoppingFresh id hmem

/-- What holds at first, and goes on to hold along every beginning of a run, holds after the
run. -/
theorem run_induction {ι : Type} {P : List (Nat × ι) → Prop} (inputs : List (Nat × ι))
    (nil : P [])
    (append : ∀ earlier now x, earlier ++ [(now, x)] <+: inputs → P earlier →
      P (earlier ++ [(now, x)])) :
  P inputs
  := by
  induction inputs using List.reverseRecOn with
  | nil => apply nil
  | append_singleton inputs x ih =>
      apply append inputs x.1 x.2 (List.prefix_refl _)
      apply ih
      intro earlier now y hbegins
      apply append earlier now y (hbegins.trans (List.prefix_append _ _))

theorem sound_ofDelay (delay : Nat) :
  (ofDelay delay).Sound
  := by
  constructor
  · nofun
  · apply List.nodup_nil
  · nofun
  · nofun
  · nofun
  · nofun
  · nofun
  · intro id hid
    apply absurd rfl hid

end Channel

end Greenhouse
