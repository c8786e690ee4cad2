import Greenhouse.Proofs.Autosave.Refinement
import Greenhouse.Proofs.Channel.Transit
import Greenhouse.Proofs.Console.Books
import Greenhouse.Proofs.Service.Ending

/-!
# The end of a supervisor on a stage

While a `stop` waits for a supervisor, nobody else is left, the flag is set, and the supervisor has
it to notice unless it does not look at it any more (`Channel.Joining`).  So on a stage it always has
something to do by itself, until the call goes on.  What is left to do is bounded, together with what
the other end may answer (`Stage.toil`), and every step of `Stage.pump` lowers it.  The steps that
`Stage.pump` allows are enough for it: after them nobody is waited for.
-/

namespace Greenhouse

open Rehearsal

/-! ### The supervisor -/

namespace Phase

/-- A supervisor that has not run yet, or that closes its session, or has ended, has no flag to
notice. -/
def Resigned : Phase → Prop
  | .created | .closing _ | .ended => True
  | .dialing | .opened _ | .writing _ _ | .waiting _ _ => False

theorem Resigned.push {frame : Outgoing} {phase after : Phase} (h : phase.Resigned)
    (hpush : phase.push frame = some after) :
  after.Resigned
  := by
  cases phase with
  | closing queue =>
      obtain rfl := Option.some.inj hpush
      trivial
  | created | ended => nomatch hpush
  | dialing | opened | writing | waiting => exact h.elim

/-- What a supervisor does next for which a `stop` waits. -/
def turn (id : Nat) : Phase → ChannelInput
  | .created => .start id
  | .writing _ _ => .written id true
  | .closing _ => .closed id
  | .ended => .finish id
  | .dialing | .opened _ | .waiting _ _ => .noticed id

/-- What a supervisor has come to then. -/
def next : Phase → Phase
  | .opened queue => .closing queue
  | .writing _ queue => .opened queue
  | .created | .dialing | .closing _ | .waiting _ _ | .ended => .ended

/-- What is left to do until the `stop` goes on.  What is said to the other end may be answered, and
is counted twice. -/
def toil : Phase → Nat
  | .ended => 1
  | .created | .dialing | .waiting _ _ => 2
  | .closing _ => 3
  | .opened _ => 4
  | .writing _ _ => 6

theorem toil_pos (phase : Phase) :
  0 < phase.toil
  := by
  cases phase <;> exact Nat.succ_pos _

theorem toil_le (phase : Phase) :
  phase.toil ≤ 6
  := by
  cases phase <;> simp [toil]

theorem turn_ne (phase : Phase) (id : Nat) :
  phase.turn id ≠ .connect ∧ phase.turn id ≠ .stop
    ∧ (phase ≠ .ended → ∀ other, phase.turn id ≠ .finish other)
  := by
  cases phase <;> simp [turn]

end Phase

namespace Channel

variable {c b : Channel} {now id other : Nat} {x : ChannelInput} {effects : List ChannelEffect}

/-- A supervisor has the flag to notice, unless it does not look at it any more. -/
def Alarmed (c : Channel) (id : Nat) : Prop := c.isNews id = false → (c.phase id).Resigned

theorem Alarmed.enter (h : c.Alarmed id) (hlive : c.phase other ≠ .ended) {phase : Phase}
    (hphase : (c.phase other).Resigned → phase.Resigned) :
  (c.enter other phase).Alarmed id
  := by
  intro hnews
  rw [isNews_enter] at hnews
  rw [c.phase_enter hlive]
  split
  · next heq =>
      apply hphase
      rw [← heq]
      apply h hnews
  · apply h hnews

theorem Alarmed.dial (h : c.Alarmed id) (hlive : c.phase other ≠ .ended)
    (hhalted : c.halted = true) :
  (c.dial other).1.Alarmed id
  := by
  obtain ⟨_, heq⟩ | ⟨hunset, _⟩ := c.dial_cases other
  · rw [heq]
    apply h.enter hlive
    exact fun _ => trivial
  · rw [hhalted] at hunset
    nomatch hunset

theorem Alarmed.calls (h : c.Alarmed id) (hcalls : c.Calls b) :
  b.Alarmed id
  := by
  intro hnews
  rw [hcalls.news] at hnews
  obtain heq | ⟨due, hbefore, _⟩ := hcalls.phase id
  · rw [heq]
    apply h hnews
  · have hresigned := h hnews
    rw [hbefore] at hresigned
    exact hresigned.elim

theorem Alarmed.look (h : c.Alarmed id) (hphase : c.phase other = .created) (version : Nat) :
  (c.update other fun s => { s with seen := version }).Alarmed id
  := by
  intro hnews
  rw [c.phase_look]
  by_cases heq : id = other
  · rw [heq, hphase]
    trivial
  · apply h
    rw [isNews, c.supervisor?_update other (f := fun s => { s with seen := version })
      (fun _ => rfl), if_neg heq] at hnews
    apply hnews

/-- As long as the flag remains as it is, a supervisor has it to notice until it has done so. -/
theorem Alarmed.move (h : c.Alarmed id) (hmove : c.Move now x b effects) (hhalted : c.halted = true)
    (hconnect : x ≠ .connect) (hstop : x ≠ .stop) :
  b.Alarmed id
  := by
  have hbusy {other : Nat} {phase : Phase} (hphase : c.phase other = phase) (hlive : phase ≠ .ended)
      (hresigned : ¬ phase.Resigned) (after : Phase) : (c.enter other after).Alarmed id := by
    subst hphase
    exact h.enter hlive fun h => absurd h hresigned
  cases hmove with
  | idle | refuse | receive | malformed | finish => exact h
  | spawn | summon => contradiction
  | halt | seize => contradiction
  | enqueue _ push => exact h.enter (Phase.of_push push).1 fun h => h.push push
  | start phase =>
      apply (h.look phase _).dial _ hhalted
      simp [c.phase_look, phase]
  | answer phase => exact h.dial (by simp [phase]) hhalted
  | rouse phase => exact Alarmed.dial (c := { c with permit := false }) h (phase ▸ by simp) hhalted
  | @elapse _ _ called phase =>
      have hcalls := c.calls_passOn called
      apply (h.calls hcalls).dial (hcalls.ne_ended (by simp [phase]))
      rw [hcalls.shared]
      apply hhalted
  | opened phase | failed phase => exact hbusy phase (by simp) not_false _
  | lose loses =>
      cases loses with
      | lost phase | broken phase => exact hbusy phase (by simp) not_false _
  | giveUp phase | take phase | written phase => exact hbusy phase (by simp) not_false _
  | leave phase => exact (hbusy phase (by simp) not_false _).calls (calls_passOn _ _)
  | @close other queue phase =>
      intro hnews
      have hlive : c.phase other ≠ .ended := by simp [phase]
      rw [c.phase_update other (f := fun s => { s with seen := c.version, phase := .closing queue })
        (fun _ => rfl) (fun _ => rfl) hlive]
      split
      · trivial
      · next hne =>
          apply h
          rw [isNews, c.supervisor?_update other
            (f := fun s => { s with seen := c.version, phase := .closing queue }) (fun _ => rfl),
            if_neg hne] at hnews
          apply hnews
  | closed phase => exact h.enter (by simp [phase]) fun _ => trivial

/-- A `stop` waits for a supervisor. -/
structure Joining (c : Channel) (id : Nat) : Prop where
  sound : c.Sound
  halted : c.halted = true
  current : c.current = none
  stopping : c.stopping = [id]
  known : id ∈ c.supervisors.map Supervisor.id
  alarmed : c.Alarmed id

/-- The phase of a supervisor is that under its number. -/
theorem Sound.phase_eq (h : c.Sound) {v : Supervisor} (hv : v ∈ c.supervisors) :
  c.phase v.id = v.phase
  := by
  have hfind : c.supervisor? v.id = some v := Autosave.find?_of_nodup_ids h.distinct hv
  rw [phase, hfind]
  rfl

theorem exists_supervisor_of_live (hlive : c.phase id ≠ .ended) :
  ∃ v, c.supervisor? id = some v
  := by
  apply Option.ne_none_iff_exists'.mp
  intro hnone
  apply hlive
  rw [phase, hnone]
  rfl

theorem mem_ids_of_live (hlive : c.phase id ≠ .ended) :
  id ∈ c.supervisors.map Supervisor.id
  := by
  obtain ⟨v, hfind⟩ := exists_supervisor_of_live hlive
  have hid : v.id = id := by simpa using List.find?_some hfind
  rw [← hid]
  apply List.mem_map_of_mem (List.mem_of_find?_eq_some hfind)

/-- The supervisor that a `stop` has found has the flag to notice. -/
theorem Sound.joining_stop (h : c.Sound) (hstopping : c.stopping = []) (hcurrent : c.current = some id)
    (hlive : c.phase id ≠ .ended) (now : Nat) :
  (c.step now .stop).1.Joining id
  := by
  have hsound := h.move (c.move_step now .stop)
  rw [step_stop_of_live hcurrent hlive] at hsound ⊢
  constructor
  · apply hsound
  · rfl
  · rfl
  · apply congrArg (· ++ [id]) hstopping
  · apply mem_ids_of_live hlive
  · intro hnews
    obtain hcreated | hended | hcalm := h.calm id hcurrent
    · change (c.phase id).Resigned
      rw [hcreated]
      trivial
    · contradiction
    · -- the flag has been set since the supervisor saw it
      obtain ⟨v, hfind⟩ := exists_supervisor_of_live hlive
      have hseen : v.seen = c.version := by simpa [isNews, hfind] using hcalm
      have hafter : ((c.supervisor? id).any fun v => v.seen != c.version + 1) = false := hnews
      simp [hfind, hseen] at hafter

theorem Joining.move (h : c.Joining id) (hmove : c.Move now x b effects) (hconnect : x ≠ .connect)
    (hstop : x ≠ .stop) (hfinish : ∀ other, x ≠ .finish other) :
  b.Joining id
  := by
  have halarmed := h.alarmed.move hmove h.halted hconnect hstop
  have hsound := h.sound.move hmove
  obtain hkeeps | ⟨rfl, _⟩ | ⟨rfl, _⟩ | ⟨_, rfl, _⟩ | ⟨other, rfl, _⟩ := hmove.keeps_or
  · constructor
    · apply hsound
    · rw [hkeeps.halted, h.halted]
    · rw [hkeeps.current, h.current]
    · rw [hkeeps.stopping, h.stopping]
    · rw [hkeeps.ids]
      apply h.known
    · apply halarmed
  · contradiction
  · contradiction
  · contradiction
  · exact absurd rfl (hfinish other)

/-- Nobody else is left. -/
theorem Joining.phase_of_ne (h : c.Joining id) (hne : other ≠ id) :
  c.phase other = .ended
  := by
  by_contra hlive
  obtain hcurrent | hstopping := h.sound.live other hlive
  · rw [h.current] at hcurrent
    nomatch hcurrent
  · rw [h.stopping, List.mem_singleton] at hstopping
    contradiction

theorem Joining.isNews_eq (h : c.Joining id) (hphase : ¬ (c.phase id).Resigned) :
  c.isNews id = true
  := by
  by_contra hnews
  apply hphase (h.alarmed (Bool.eq_false_iff.mpr hnews))

/-- One text is written at a time. -/
theorem length_written_step_le (c : Channel) (now : Nat) (x : ChannelInput) :
  (ChannelEffect.written (c.step now x).2).length ≤ 1
  := by
  obtain heq | ⟨_, _, _, _, _, heq⟩ := (c.move_step now x).written_cases
  · rw [heq]
    apply Nat.zero_le
  · rw [heq]
    apply Nat.le_refl

/-- What a supervisor comes to for which a `stop` waits. -/
theorem Joining.phase_step_turn (h : c.Joining id) (now : Nat) :
  (c.step now ((c.phase id).turn id)).1.phase id = (c.phase id).next
  := by
  have henter {phase : Phase} (hphase : c.phase id = phase) (hlive : phase ≠ .ended)
      (after : Phase) : (c.enter id after).phase id = after :=
    (c.phase_enter (hphase ▸ hlive) after id).trans (if_pos rfl)
  have hnews := h.isNews_eq
  cases hphase : c.phase id with
  | created => apply Comes.phase_of_halted (.start hphase) h.halted
  | dialing =>
      rw [hphase] at hnews
      simp only [Phase.turn, step, hphase, hnews not_false, if_true]
      apply henter hphase (by simp)
  | opened queue =>
      rw [hphase] at hnews
      simp only [Phase.turn, step, hphase, hnews not_false, if_true]
      have hlive : c.phase id ≠ .ended := by simp [hphase]
      apply (c.phase_update id (f := fun s => { s with seen := c.version, phase := .closing queue })
        (fun _ => rfl) (fun _ => rfl) hlive id).trans
      apply if_pos rfl
  | writing frame queue =>
      simp only [Phase.turn, step, hphase, if_true]
      apply henter hphase (by simp)
  | closing queue =>
      simp only [Phase.turn, step, hphase]
      apply henter hphase (by simp)
  | waiting due called =>
      rw [hphase] at hnews
      simp only [Phase.turn, step, hphase, hnews not_false, if_true]
      have hended := henter hphase (by simp) .ended
      have hcalls := (c.enter id .ended).calls_passOn called
      apply (hcalls.phase_eq_iff (by simp) id).mpr hended
  | ended =>
      simp only [Phase.turn, step]
      split <;> exact hphase

/-- Whoever loses the channel has less to do. -/
theorem toil_lost_le (c : Channel) (now id other : Nat) :
  ((c.step now (.lost other)).1.phase id).toil ≤ (c.phase id).toil
  := by
  cases hphase : c.phase other with
  | opened queue =>
      have hlive : c.phase other ≠ .ended := by
        rw [hphase]
        nofun
      have hafter : (c.step now (.lost other)).1.phase id
          = if id = other then .waiting (now + waitLength c.delay) false else c.phase id := by
        simp only [step, hphase]
        apply c.phase_enter hlive
      rw [hafter]
      split
      · next heq =>
          rw [heq, hphase]
          change 2 ≤ 4
          decide
      · apply Nat.le_refl
  | created | dialing | writing | closing | waiting | ended =>
      simp only [step, hphase]
      apply Nat.le_refl

end Channel

/-! ### The stage -/

namespace Rehearsal

namespace Stage

variable {s : Stage} {id : Nat} {x : ChannelInput}

theorem bridge_perform (s : Stage) (effects : List Effect) :
  (s.perform effects).bridge = s.bridge
  := by
  rw [perform]
  induction effects generalizing s with
  | nil => rfl
  | cons effect effects ih =>
      rw [List.foldl_cons, ih]
      cases effect <;> rfl

theorem bridge_tell (s : Stage) (id : Nat) (m : Message) :
  (s.tell id m).bridge = s.bridge
  := by
  rw [tell]
  split <;> rfl

theorem bridge_absorbAll (s : Stage) (effects : List ChannelEffect) :
  (s.absorbAll effects).bridge = (s.bridge.absorbAll effects).1
  := by
  rw [absorbAll]
  induction effects generalizing s with
  | nil => rfl
  | cons effect effects ih =>
      have hbridge : (s.absorb effect).bridge = (s.bridge.absorb effect).1 := by
        cases effect with
        | wrote => apply bridge_tell
        | answer => apply bridge_perform
        | signal | count | dial | stopped => rfl
      rw [List.foldl_cons, ih, hbridge]
      rfl

/-- The channel of a stage goes on as that of a bridge at work does. -/
theorem bridge_drive (s : Stage) (x : ChannelInput) :
  (s.drive x).bridge = ((s.bridge.drive s.now x).1.absorbAll (s.bridge.drive s.now x).2).1
  := by
  have hbridge := bridge_absorbAll { s with bridge := (s.bridge.drive s.now x).1 }
    (s.bridge.drive s.now x).2
  unfold drive
  simp only
  split
  · split
    · apply hbridge
    · apply hbridge
  · rw [bridge_tell]
    apply hbridge
  · apply hbridge

theorem channel_drive (s : Stage) (x : ChannelInput) :
  (s.drive x).bridge.channel = (s.bridge.channel.step s.now x).1
  := by
  rw [bridge_drive, Bridge.absorbAll_fst]
  rfl

/-- The stand-in has one thing to say at most to what it is told. -/
theorem length_hear_le (standIn : StandIn) (now client : Nat) (m : Message) :
  (standIn.hear now client m).2.length ≤ 1
  := by
  unfold StandIn.hear
  split
  · apply Nat.zero_le
  · split
    · apply Nat.le_refl
    · cases m with
      | text text =>
          change (standIn.hearText now text).2.length ≤ 1
          unfold StandIn.hearText
          split
          · apply Nat.zero_le
          · dsimp only
            split
            · apply Nat.le_refl
            · apply Nat.zero_le
      | ping => apply Nat.le_refl
      | binary | pong | close | gone => apply Nat.zero_le

theorem length_mail_tell_le (s : Stage) (id : Nat) (m : Message) :
  (s.tell id m).mail.length ≤ s.mail.length + 1
  := by
  rw [tell]
  split
  · have hreplies := length_hear_le s.standIn s.now id m
    simpa using hreplies
  · apply Nat.le_succ

/-- There is no answer to an answer. -/
theorem mail_tell_pong (s : Stage) (id : Nat) {payload : String}
    (h : (Message.pong payload).keeps = true) :
  (s.tell id (.pong payload)).mail = s.mail
  := by
  have hnone : (s.standIn.hear s.now id (.pong payload)).2 = [] := by
    unfold StandIn.hear
    rw [h]
    split <;> rfl
  rw [tell]
  split
  · simp [hnone]
  · rfl

theorem mail_perform (s : Stage) (effects : List Effect) :
  (s.perform effects).mail = s.mail
  := by
  rw [perform]
  induction effects generalizing s with
  | nil => rfl
  | cons effect effects ih =>
      rw [List.foldl_cons, ih]
      cases effect <;> rfl

/-- The other end answers only to what has been written. -/
theorem length_mail_absorbAll_le (s : Stage) (effects : List ChannelEffect) :
  (s.absorbAll effects).mail.length ≤ s.mail.length + (ChannelEffect.written effects).length
  := by
  induction effects generalizing s with
  | nil => apply Nat.le_refl
  | cons effect effects ih =>
      have hrest := ih (s.absorb effect)
      cases effect with
      | wrote id frame =>
          have htold := s.length_mail_tell_le id (.text frame.text)
          have hlength : (ChannelEffect.written (.wrote id frame :: effects)).length
              = (ChannelEffect.written effects).length + 1 := rfl
          rw [hlength]
          apply Nat.le_trans hrest
          change (s.tell id (.text frame.text)).mail.length + _ ≤ _
          omega
      | answer ticket result =>
          have hmail : (s.absorb (.answer ticket result)).mail = s.mail := mail_perform _ _
          rwa [hmail] at hrest
      | signal | count | dial | stopped => exact hrest

theorem length_mail_drive_le (s : Stage) (hx : ∀ id, x ≠ .closed id) :
  (s.drive x).mail.length
    ≤ s.mail.length + (ChannelEffect.written (s.bridge.channel.step s.now x).2).length
  := by
  have habsorbed := length_mail_absorbAll_le { s with bridge := (s.bridge.drive s.now x).1 }
    (s.bridge.drive s.now x).2
  unfold drive
  dsimp only
  split
  · split <;> exact habsorbed
  · exact absurd rfl (hx _)
  · exact habsorbed

theorem length_mail_drive_closed_le (s : Stage) (id : Nat) :
  (s.drive (.closed id)).mail.length ≤ s.mail.length + 1
  := by
  have habsorbed := length_mail_absorbAll_le
    { s with bridge := (s.bridge.drive s.now (.closed id)).1 } (s.bridge.drive s.now (.closed id)).2
  have hnone : ChannelEffect.written (s.bridge.drive s.now (.closed id)).2 = [] := by
    apply (s.bridge.channel.move_step s.now (.closed id)).written_cases.resolve_right
    rintro ⟨_, _, _, hx, _⟩
    nomatch hx
  rw [hnone] at habsorbed
  apply Nat.le_trans (length_mail_tell_le _ _ _)
  apply Nat.succ_le_succ habsorbed

/-- What is left to do on a stage until the `stop` goes on that waits for a supervisor. -/
def toil (s : Stage) (id : Nat) : Nat := s.mail.length + (s.bridge.channel.phase id).toil

/-- What the supervisor does next, it does by itself. -/
theorem findSome?_next? (h : s.bridge.channel.Joining id) :
  s.bridge.channel.supervisors.findSome? s.next?
    = some ((s.bridge.channel.phase id).turn id)
  := by
  have hnext {v : Supervisor} (hv : v ∈ s.bridge.channel.supervisors) :
      s.next? v = if v.id = id then some ((s.bridge.channel.phase id).turn id) else none := by
    have hphase := h.sound.phase_eq hv
    split
    · next heq =>
        rw [heq] at hphase
        rw [hphase]
        have hnews := h.isNews_eq
        rw [hphase] at hnews
        cases hcase : v.phase with
        | created | writing | closing => simp [next?, hcase, Phase.turn, heq]
        | dialing | opened | waiting =>
            rw [hcase] at hnews
            simp [next?, hcase, Phase.turn, heq, hnews not_false]
        | ended => simp [next?, hcase, Phase.turn, heq, h.stopping]
    · next hne =>
        rw [h.phase_of_ne hne] at hphase
        simp [next?, ← hphase, h.stopping, hne]
  obtain ⟨v, hv, hid⟩ := List.mem_map.mp h.known
  cases hfind : s.bridge.channel.supervisors.findSome? s.next? with
  | none =>
      have hnone := List.findSome?_eq_none_iff.mp hfind v hv
      rw [hnext hv, if_pos hid] at hnone
      cases hnone
  | some x =>
      obtain ⟨w, hw, hx⟩ := List.exists_of_findSome?_eq_some hfind
      rw [hnext hw] at hx
      rw [(Option.ite_none_right_eq_some.mp hx).2]

/-- The other end has nothing to answer unless a text is written or a session closed. -/
theorem length_mail_drive_of_silent (s : Stage) (hwritten : ∀ id, x ≠ .written id true)
    (hclosed : ∀ id, x ≠ .closed id) :
  (s.drive x).mail.length ≤ s.mail.length
  := by
  have hmail := s.length_mail_drive_le hclosed
  have hnone : ChannelEffect.written (s.bridge.channel.step s.now x).2 = [] := by
    apply (s.bridge.channel.move_step s.now x).written_cases.resolve_right
    rintro ⟨id, _, _, hx, _⟩
    exact hwritten id hx
  rwa [hnone] at hmail

theorem Joining.drive (h : s.bridge.channel.Joining id) (hconnect : x ≠ .connect) (hstop : x ≠ .stop)
    (hfinish : ∀ other, x ≠ .finish other) :
  (s.drive x).bridge.channel.Joining id
  := by
  rw [channel_drive]
  apply h.move (Channel.move_step _ _ _) hconnect hstop hfinish

/-- What the supervisor does by itself lowers what is left to do. -/
theorem toil_drive_turn_lt (h : s.bridge.channel.Joining id)
    (hlive : s.bridge.channel.phase id ≠ .ended) :
  (s.drive ((s.bridge.channel.phase id).turn id)).toil id < s.toil id
  := by
  have hphase := h.phase_step_turn s.now
  rw [toil, channel_drive, hphase, toil]
  cases hcase : s.bridge.channel.phase id with
  | created | dialing | opened | waiting =>
      have hmail := s.length_mail_drive_of_silent (x := (s.bridge.channel.phase id).turn id)
      rw [hcase] at hmail
      apply Nat.add_lt_add_of_le_of_lt (hmail (by simp [Phase.turn]) (by simp [Phase.turn]))
      exact Nat.lt_succ_self _
  | writing frame queue =>
      have hmail := s.length_mail_drive_le (x := .written id true) (by simp)
      have hone := s.bridge.channel.length_written_step_le s.now (.written id true)
      simp only [Phase.turn, Phase.next, Phase.toil]
      omega
  | closing queue =>
      have hmail := s.length_mail_drive_closed_le id
      simp only [Phase.turn, Phase.next, Phase.toil]
      omega
  | ended => contradiction

/-- What the other end says does not add to it. -/
theorem deliver_of_joining (h : s.bridge.channel.Joining id) (other : Nat) (m : Message) :
  (s.deliver other m).bridge.channel.Joining id ∧ (s.deliver other m).toil id ≤ s.toil id
  := by
  have hstill {t : Stage} (ht : t.bridge = s.bridge) (hmail : t.mail = s.mail) {x : ChannelInput}
      (hx : (s.bridge.channel.step t.now x).1 = s.bridge.channel)
      (hwritten : ∀ id, x ≠ .written id true) (hclosed : ∀ id, x ≠ .closed id) :
      (t.drive x).bridge.channel.Joining id ∧ (t.drive x).toil id ≤ s.toil id := by
    rw [toil, channel_drive, ht, hx, toil, ← hmail]
    use h
    apply Nat.add_le_add_right (t.length_mail_drive_of_silent hwritten hclosed)
  unfold deliver
  split
  · use Joining.drive h nofun nofun (by simp)
    rw [toil, channel_drive, toil]
    apply Nat.add_le_add (s.length_mail_drive_of_silent (by simp) (by simp))
    apply Channel.toil_lost_le
  · next hkeeps =>
      split
      · apply hstill rfl rfl _ (by simp) (by simp)
        apply (s.bridge.channel.step_received _ _ _).1
      · next payload =>
          have hping : (Message.ping payload).keeps = true := by simpa using hkeeps
          apply hstill _ _ rfl (by simp) (by simp)
          · split
            · apply bridge_tell
            · rfl
          · split
            · apply s.mail_tell_pong other hping
            · rfl
      · apply hstill rfl rfl rfl (by simp) (by simp)

/-! ### The end -/

theorem stopping_drive (h : s.bridge.channel.stopping = []) (hx : x ≠ .stop) :
  (s.drive x).bridge.channel.stopping = []
  := by
  rw [channel_drive]
  apply List.eq_nil_iff_forall_not_mem.mpr
  intro id hid
  have hbefore := ((s.bridge.channel.move_step s.now x).current_or_fresh hx).1 id hid
  rw [h] at hbefore
  nomatch hbefore

/-- Nobody calls `stop` while the channel and its other end go on. -/
theorem stopping_pumpFor (h : s.bridge.channel.stopping = []) (fuel : Nat) :
  (pumpFor fuel s).bridge.channel.stopping = []
  := by
  apply pumpFor_induction (P := fun t => t.bridge.channel.stopping = [])
  · exact fun t mail h => h
  · intro t id m h
    rw [bridge_tell]
    exact h
  · exact fun t x _ hstop h => stopping_drive h hstop
  · exact h

/-- A `stop` that waits for a supervisor goes on within the steps that there is something to do. -/
theorem stopping_pumpFor_of_joining (h : s.bridge.channel.Joining id) {fuel : Nat}
    (hfuel : s.toil id ≤ fuel) :
  (pumpFor fuel s).bridge.channel.stopping = []
  := by
  -- every step lowers what is left to do, and there is nothing left only when the `stop` has gone on
  induction fuel generalizing s with
  | zero =>
      have hpos := (s.bridge.channel.phase id).toil_pos
      rw [toil] at hfuel
      omega
  | succ fuel ih =>
      rw [pumpFor]
      split
      · next other m mail hmail =>
          obtain ⟨hjoining, htoil⟩ := deliver_of_joining (s := { s with mail }) h other m
          apply ih hjoining
          simp only [toil, hmail, List.length_cons] at hfuel htoil ⊢
          omega
      · rw [findSome?_next? h]
        dsimp only
        by_cases hended : s.bridge.channel.phase id = .ended
        · apply stopping_pumpFor
          rw [channel_drive, hended]
          simp [Phase.turn, Channel.step, h.stopping, hended, Channel.endStop, Channel.setState]
        · obtain ⟨hconnect, hstop, hfinish⟩ := (s.bridge.channel.phase id).turn_ne id
          apply ih (Joining.drive h hconnect hstop (hfinish hended))
          apply Nat.le_of_lt_succ
          apply Nat.lt_of_lt_of_le (toil_drive_turn_lt h hended) hfuel

theorem toil_le_effort (s : Stage) (id : Nat) :
  s.toil id ≤ s.effort
  := by
  have hfold (f : Supervisor → Nat) (least : Nat) (supervisors : List Supervisor) :
      least ≤ supervisors.foldr (fun v rest => 8 + 4 * f v + rest) least := by
    induction supervisors with
    | nil => apply Nat.le_refl
    | cons v rest ih =>
        rw [List.foldr_cons]
        omega
  have htoil := (s.bridge.channel.phase id).toil_le
  rw [toil, effort]
  apply Nat.le_trans _ (hfold _ _ _)
  omega

/-- When `stop` has been called and the channel and its other end have come to rest, nobody is waited
for. -/
theorem stopping_pump_stop (hsound : s.bridge.channel.Sound)
    (hstopping : s.bridge.channel.stopping = []) :
  (s.drive .stop).pump.bridge.channel.stopping = []
  := by
  obtain hvacant | ⟨id, hcurrent, hlive⟩ := s.bridge.channel.vacant_or_live
  · apply stopping_pumpFor
    rw [channel_drive, Channel.step_stop_of_vacant hvacant]
    apply hstopping
  · have hjoining : (s.drive .stop).bridge.channel.Joining id := by
      rw [channel_drive]
      apply hsound.joining_stop hstopping hcurrent hlive
    apply stopping_pumpFor_of_joining hjoining (toil_le_effort _ _)

end Stage

end Rehearsal

end Greenhouse
