import Greenhouse.Proofs.Channel.Dial

/-!
# Texts on their way

A supervisor holds the texts that it has taken until it has written them, or gives them up.
`Channel.Transit` says what an input does to the texts that are held, and what the senders learn of
it.
-/

namespace Greenhouse

/-- The texts that have been taken and not yet been written. -/
def Phase.frames : Phase → List Outgoing
  | .opened queue | .closing queue => queue
  | .writing frame queue => frame :: queue
  | .created | .dialing | .waiting _ _ | .ended => []

theorem Phase.frames_of_push {frame : Outgoing} {phase after : Phase}
    (h : phase.push frame = some after) :
  after.frames = phase.frames ++ [frame]
  := by
  cases phase with
  | opened | writing | closing =>
      obtain rfl := Option.some.inj h
      rfl
  | created | dialing | waiting | ended => nomatch h

namespace ChannelEffect

/-- The text that a supervisor has written. -/
def written? : ChannelEffect → Option (Nat × Outgoing)
  | .wrote id frame => some (id, frame)
  | .signal _ | .count _ | .dial _ | .answer _ _ | .stopped => none

/-- What the sender of a text learns. -/
def answer? : ChannelEffect → Option (Nat × Except ChannelError Unit)
  | .answer ticket result => some (ticket, result)
  | .signal _ | .count _ | .dial _ | .wrote _ _ | .stopped => none

/-- The texts that supervisors have written. -/
def written (effects : List ChannelEffect) : List (Nat × Outgoing) := effects.filterMap written?

/-- What senders have learnt. -/
def answers (effects : List ChannelEffect) : List (Nat × Except ChannelError Unit) :=
  effects.filterMap answer?

@[simp]
theorem written_append (effects more : List ChannelEffect) :
  written (effects ++ more) = written effects ++ written more
  := List.filterMap_append

@[simp]
theorem answers_append (effects more : List ChannelEffect) :
  answers (effects ++ more) = answers effects ++ answers more
  := List.filterMap_append

end ChannelEffect

namespace Channel

open ChannelEffect

/-- The texts that a supervisor holds. -/
def held (c : Channel) (id : Nat) : List Outgoing := (c.phase id).frames

/-- What an input does to the texts that are held; with the channel after it, what is written, and
what senders learn. -/
inductive Transit (c : Channel) :
    ChannelInput → Channel → List (Nat × Outgoing) → List (Nat × Except ChannelError Unit) → Prop
  /-- Nothing. -/
  | still {x : ChannelInput} {b : Channel} (other : ∀ text, x ≠ .send text)
    (held : ∀ id, b.held id = c.held id) : Transit c x b [] []
  /-- Nobody takes the text that is sent. -/
  | refused {text : String} {b : Channel} (held : ∀ id, b.held id = c.held id) :
    Transit c (.send text) b [] [(c.fresh, .error .notOpen)]
  /-- A supervisor takes the text that is sent, behind those that it holds. -/
  | taken {text : String} {b : Channel} (id : Nat)
    (own : b.held id = c.held id ++ [⟨c.fresh, text⟩])
    (others : ∀ other ≠ id, b.held other = c.held other) : Transit c (.send text) b [] []
  /-- The first text that a supervisor holds has been written. -/
  | wrote {x : ChannelInput} {b : Channel} {id : Nat} {frame : Outgoing}
    (other : ∀ text, x ≠ .send text) (own : c.held id = frame :: b.held id)
    (others : ∀ other ≠ id, b.held other = c.held other) :
    Transit c x b [(id, frame)] [(frame.ticket, .ok ())]
  /-- A supervisor gives up all that it holds. -/
  | dropped {x : ChannelInput} {b : Channel} {id : Nat} (other : ∀ text, x ≠ .send text)
    (own : b.held id = []) (others : ∀ other ≠ id, b.held other = c.held other) :
    Transit c x b [] ((c.held id).map fun f => (f.ticket, .error .closed))

variable {c b : Channel} {now id : Nat} {x : ChannelInput}

theorem held_enter (hlive : c.phase id ≠ .ended) (phase : Phase) (other : Nat) :
  (c.enter id phase).held other = if other = id then phase.frames else c.held other
  := by
  rw [held, c.phase_enter hlive]
  split <;> rfl

theorem Calls.held_eq (h : c.Calls b) (id : Nat) :
  b.held id = c.held id
  := by
  obtain heq | ⟨due, hbefore, hafter⟩ := h.phase id
  · rw [held, heq, held]
  · rw [held, hafter, held, hbefore]
    rfl

/-- A supervisor that comes to dial holds nothing, before and after. -/
theorem held_dial (hlive : c.phase id ≠ .ended) (hnone : c.held id = []) (other : Nat) :
  (c.dial id).1.held other = c.held other
  := by
  have henter (phase : Phase) (hframes : phase.frames = []) :
      (c.enter id phase).held other = c.held other := by
    rw [held_enter hlive]
    split
    · next heq => rw [heq, hnone, hframes]
    · rfl
  obtain ⟨_, heq⟩ | ⟨_, heq⟩ := c.dial_cases id
  · rw [heq]
    apply henter .ended rfl
  · rw [heq]
    apply henter .dialing rfl

@[simp]
theorem written_heard (c : Channel) (state : ConnectionState) :
  written (c.heard state) = []
  := by
  rw [heard, setState]
  split <;> rfl

@[simp]
theorem answers_heard (c : Channel) (state : ConnectionState) :
  answers (c.heard state) = []
  := by
  rw [heard, setState]
  split <;> rfl

@[simp]
theorem written_discard (queue : List Outgoing) :
  written (discard queue) = []
  := by
  simp [written, discard, written?]

@[simp]
theorem answers_discard (queue : List Outgoing) :
  answers (discard queue) = queue.map fun f => (f.ticket, .error .closed)
  := by
  rw [answers, discard, List.filterMap_map, ← List.filterMap_eq_map]
  rfl

theorem written_dial (c : Channel) (id : Nat) :
  written (c.dial id).2 = [] ∧ answers (c.dial id).2 = []
  := by
  obtain ⟨_, heq⟩ | ⟨_, heq⟩ := c.dial_cases id
  · rw [heq]
    use rfl
    rfl
  · rw [heq]
    simp only [written_append, answers_append, written_heard, answers_heard]
    use rfl
    rfl

/-- A text is written by a supervisor that has been writing it, and in no other way. -/
theorem Move.written_cases {effects : List ChannelEffect} (h : c.Move now x b effects) :
  ChannelEffect.written effects = []
    ∨ ∃ id frame queue, x = .written id true ∧ c.phase id = .writing frame queue
      ∧ ChannelEffect.written effects = [(id, frame)]
  := by
  cases h with
  | written phase =>
      right
      exact ⟨_, _, _, rfl, phase, rfl⟩
  | start | answer | rouse | elapse =>
      left
      apply (written_dial _ _).1
  | halt | finish | failed =>
      left
      rw [written_append, written_heard]
      rfl
  | opened =>
      left
      apply written_heard
  | lose =>
      left
      rw [written_append, written_append, written_discard, written_heard]
      rfl
  | closed =>
      left
      rw [written_append, written_discard, written_heard]
      rfl
  | _ =>
      left
      rfl

/-- A text that is sent is taken, or refused. -/
theorem transit_step_send (c : Channel) (now : Nat) (text : String) :
  c.Transit (.send text) (c.step now (.send text)).1 (written (c.step now (.send text)).2)
    (answers (c.step now (.send text)).2)
  := by
  obtain ⟨_, hstep⟩ | ⟨id, phase, _, hpush, hstep⟩ := c.step_send_cases now text
  · rw [hstep]
    exact .refused fun _ => rfl
  · have hlive := (Phase.of_push hpush).1
    rw [hstep]
    apply Transit.taken id
    · apply (held_enter hlive phase id).trans
      rw [if_pos rfl, Phase.frames_of_push hpush]
      rfl
    · intro other hother
      apply (held_enter hlive phase other).trans
      rw [if_neg hother]

/-- A supervisor goes over to another phase, and holds what it held. -/
theorem Transit.enter {phase : Phase} (after : Phase) (hx : ∀ text, x ≠ .send text)
    (hphase : c.phase id = phase) (hlive : phase ≠ .ended) (hframes : after.frames = phase.frames)
    (hheld : ∀ other, b.held other = (c.enter id after).held other) :
  c.Transit x b [] []
  := by
  subst hphase
  apply Transit.still hx
  intro other
  rw [hheld, held_enter hlive]
  split
  · next heq => rw [heq, hframes, held]
  · rfl

/-- A supervisor goes over to another phase, and gives up what it held. -/
theorem Transit.discard (after : Phase) {queue : List Outgoing} (hx : ∀ text, x ≠ .send text)
    (hlive : c.phase id ≠ .ended) (hqueue : c.held id = queue) (hframes : after.frames = [])
    (hheld : ∀ other, b.held other = (c.enter id after).held other) :
  c.Transit x b [] (queue.map fun f => (f.ticket, .error .closed))
  := by
  subst hqueue
  apply Transit.dropped hx
  · rw [hheld, held_enter hlive, if_pos rfl, hframes]
  · intro other hother
    rw [hheld, held_enter hlive, if_neg hother]

theorem Move.transit {effects : List ChannelEffect} (h : c.Move now x b effects)
    (hsound : c.Sound) (hx : ∀ text, x ≠ .send text) :
  c.Transit x b (ChannelEffect.written effects) (ChannelEffect.answers effects)
  := by
  have hdial {d : Channel} {id : Nat} {phase : Phase} (hheld : ∀ other, d.held other = c.held other)
      (hphase : d.phase id = phase) (hlive : phase ≠ .ended) (hnone : phase.frames = []) :
      c.Transit x (d.dial id).1 (ChannelEffect.written (d.dial id).2)
        (ChannelEffect.answers (d.dial id).2) := by
    subst hphase
    obtain ⟨hwritten, hanswers⟩ := d.written_dial id
    rw [hwritten, hanswers]
    apply Transit.still hx
    intro other
    rw [held_dial hlive hnone, hheld]
  cases h with
  | idle | receive | malformed | seize => exact .still hx fun _ => rfl
  | spawn =>
      apply Transit.still hx
      intro id
      rw [held, c.phase_spawn hsound.ids]
      split
      · next heq =>
          have hended : c.phase c.fresh = .ended := by
            by_contra hlive
            exact Nat.lt_irrefl _ (hsound.lt_fresh hlive)
          rw [heq, held, hended]
          rfl
      · rfl
  | summon => exact .still hx c.calls_callOut.held_eq
  | halt | finish =>
      simp only [written_append, answers_append, written_heard, answers_heard]
      exact .still hx fun _ => rfl
  | refuse => exact absurd rfl (hx _)
  | enqueue => exact absurd rfl (hx _)
  | @start id phase =>
      refine hdial ?_ ((c.phase_look _ _ _).trans phase) nofun rfl
      intro other
      rw [held, c.phase_look, held]
  | answer phase => exact hdial (fun _ => rfl) phase nofun rfl
  | rouse phase => exact hdial (d := { c with permit := false }) (fun _ => rfl) phase nofun rfl
  | @elapse id due called phase =>
      have hcalls := c.calls_passOn called
      obtain heq | ⟨due', _, hafter⟩ := hcalls.phase id
      · exact hdial hcalls.held_eq (heq.trans phase) nofun rfl
      · exact hdial hcalls.held_eq hafter nofun rfl
  | opened phase =>
      rw [written_heard, answers_heard]
      exact .enter (.opened []) hx phase nofun rfl fun _ => rfl
  | failed phase =>
      simp only [written_append, answers_append, written_heard, answers_heard]
      exact .enter (.waiting (now + waitLength c.delay) false) hx phase nofun rfl fun _ => rfl
  | @lose id queue x loses =>
      have hqueue : c.held id = queue := by
        cases loses with
        | lost phase | broken phase =>
            rw [held, phase]
            rfl
      simp only [written_append, answers_append, written_heard, answers_heard, written_discard,
        answers_discard, List.append_nil]
      rw [show answers [count .reconnectAttempts] = [] from rfl, List.append_nil]
      exact .discard (.waiting (now + waitLength c.delay) false) hx loses.ne_ended hqueue rfl
        fun _ => rfl
  | giveUp phase => exact .enter .ended hx phase nofun rfl fun _ => rfl
  | leave phase => exact .enter .ended hx phase nofun rfl (calls_passOn _ _).held_eq
  | @close id queue phase =>
      have hlive : c.phase id ≠ .ended := by
        rw [phase]
        nofun
      apply Transit.enter (.closing queue) hx phase nofun rfl
      intro other
      rw [held, c.phase_update id (f := fun s => { s with seen := c.version, phase := .closing queue })
        (fun _ => rfl) (fun _ => rfl) hlive, held, c.phase_enter hlive]
  | closed phase =>
      have hqueue := congrArg Phase.frames phase
      simp only [written_append, answers_append, written_heard, answers_heard, written_discard,
        answers_discard, List.append_nil]
      exact .discard .ended hx (phase ▸ nofun) hqueue rfl fun _ => rfl
  | @take id frame queue phase => exact .enter (.writing frame queue) hx phase nofun rfl fun _ => rfl
  | @written id frame queue phase =>
      have hlive : c.phase id ≠ .ended := by
        rw [phase]
        nofun
      apply Transit.wrote hx
      · rw [held_enter hlive, if_pos rfl, held, phase]
        rfl
      · intro other hother
        rw [held_enter hlive, if_neg hother]

/-- What every input does to the texts that are held. -/
theorem Sound.transit (h : c.Sound) (now : Nat) (x : ChannelInput) :
  c.Transit x (c.step now x).1 (written (c.step now x).2) (answers (c.step now x).2)
  := by
  cases x with
  | send text => apply c.transit_step_send
  | _ => exact (c.move_step now _).transit h (by simp)

/-- A text that is held was held before, or it is the one that is sent. -/
theorem Transit.mem_held {written : List (Nat × Outgoing)}
    {answers : List (Nat × Except ChannelError Unit)} (h : c.Transit x b written answers)
    {f : Outgoing} (hf : f ∈ b.held id) :
  f ∈ c.held id ∨ (∃ text, x = .send text) ∧ f.ticket = c.fresh
  := by
  cases h with
  | still _ held | refused held =>
      left
      rwa [← held]
  | @taken text _ taker own others =>
      by_cases hid : id = taker
      · subst hid
        rw [own, List.mem_append, List.mem_singleton] at hf
        apply hf.imp_right
        rintro rfl
        exact ⟨⟨text, rfl⟩, rfl⟩
      · left
        rwa [← others id hid]
  | @wrote _ _ writer frame _ own others =>
      left
      by_cases hid : id = writer
      · subst hid
        rw [own]
        apply List.mem_cons_of_mem frame hf
      · rwa [← others id hid]
  | @dropped _ _ loser _ own others =>
      left
      by_cases hid : id = loser
      · rw [hid, own] at hf
        nomatch hf
      · rwa [← others id hid]

/-- A text that is answered for was held before, or it is the one that is sent. -/
theorem Transit.exists_held_of_answer {written : List (Nat × Outgoing)}
    {answers : List (Nat × Except ChannelError Unit)} (h : c.Transit x b written answers)
    {a : Nat × Except ChannelError Unit} (ha : a ∈ answers) :
  (∃ id, ∃ f ∈ c.held id, f.ticket = a.1) ∨ (∃ text, x = .send text) ∧ a.1 = c.fresh
  := by
  cases h with
  | still | taken => nomatch ha
  | @refused text =>
      right
      rw [List.mem_singleton.mp ha]
      exact ⟨⟨text, rfl⟩, rfl⟩
  | @wrote _ _ writer frame _ own =>
      left
      rw [List.mem_singleton.mp ha]
      use writer, frame
      rw [own]
      exact ⟨List.mem_cons_self, rfl⟩
  | @dropped _ _ loser =>
      left
      obtain ⟨f, hf, rfl⟩ := List.mem_map.mp ha
      use loser, f

/-- Supervisors that have ended stay so; a new one comes only by `connect`. -/
theorem Move.live_or_spawn {effects : List ChannelEffect} (h : c.Move now x b effects) :
  (∀ id, b.phase id ≠ .ended → c.phase id ≠ .ended) ∨ (x = .connect ∧ c.Vacant ∧ b = c.spawn)
  := by
  obtain hkeeps | hspawn | ⟨_, _, rfl⟩ | ⟨_, _, _, _, rfl⟩ | ⟨_, _, _, _, rfl⟩ := h.keeps_or
  · left
    apply hkeeps.live
  · right
    apply hspawn
  · left
    exact fun _ hlive => hlive
  · left
    exact fun _ hlive => hlive
  · left
    exact fun _ hlive => hlive

theorem held_of_ended (h : c.phase id = .ended) :
  c.held id = []
  := by
  rw [held, h]
  rfl

/-- The number of a text that is sent is given out. -/
theorem fresh_step_send (c : Channel) (now : Nat) (text : String) :
  (c.step now (.send text)).1.fresh = c.fresh + 1
  := by
  obtain ⟨_, hstep⟩ | ⟨_, _, _, _, hstep⟩ := c.step_send_cases now text <;> rw [hstep]

end Channel

end Greenhouse
