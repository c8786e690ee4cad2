import Greenhouse.Proofs.Channel.Sound

/-!
# Dialing

When a supervisor dials, when it loses the channel, and when a call that `connect` has made is left
over.  `Channel.Fate` says of a move what it is to a single supervisor.
-/

namespace Greenhouse

/-- The supervisor that begins to dial by an effect. -/
def ChannelEffect.dialer? : ChannelEffect → Option Nat
  | .dial id => some id
  | .signal _ | .count _ | .wrote _ _ | .answer _ _ | .stopped => none

/-- The moment until which a supervisor waits. -/
def Phase.due? : Phase → Option Nat
  | .waiting due _ => some due
  | .created | .dialing | .opened _ | .writing _ _ | .closing _ | .ended => none

theorem Phase.due?_of_push {frame : Outgoing} {phase after : Phase}
    (h : phase.push frame = some after) :
  phase ≠ .ended ∧ phase.due? = none ∧ after.due? = none
  := by
  cases phase with
  | opened | writing | closing =>
      obtain rfl := Option.some.inj h
      use nofun, rfl
      rfl
  | created | dialing | waiting | ended => nomatch h

namespace Channel

/-- The supervisors that begin to dial on an input. -/
def dialers (c : Channel) (now : Nat) (x : ChannelInput) : List Nat :=
  (c.step now x).2.filterMap ChannelEffect.dialer?

/-- The supervisor whose attempt to dial fails on an input, or whose channel is lost. -/
def loser? (c : Channel) : ChannelInput → Option Nat
  | .dialed id false => if c.phase id = .dialing then some id else none
  | .written id false =>
    match c.phase id with
    | .writing _ _ => some id
    | _ => none
  | .lost id =>
    match c.phase id with
    | .opened _ => some id
    | _ => none
  | _ => none

/-- A call is left over by an input: `connect` finds nobody waiting who has not been called, or
somebody who has been called ends its wait for another reason. -/
def LeavesCall (c : Channel) (now : Nat) : ChannelInput → Prop
  | .connect => ¬ c.Vacant ∧ c.state = .closed ∧ c.Awake
  | .noticed id => c.isNews id = true ∧ ∃ due, c.phase id = .waiting due true
  | .elapsed id => ∃ due ≤ now, c.phase id = .waiting due true
  | _ => False

variable {c b : Channel} {now id : Nat} {x : ChannelInput} {effects : List ChannelEffect}

@[simp]
theorem filterMap_dialer?_heard (c : Channel) (state : ConnectionState) :
  (c.heard state).filterMap ChannelEffect.dialer? = []
  := by
  rw [heard, setState]
  split <;> rfl

@[simp]
theorem filterMap_dialer?_discard (queue : List Outgoing) :
  (discard queue).filterMap ChannelEffect.dialer? = []
  := by
  simp [discard, ChannelEffect.dialer?]

theorem mem_dialers_dial {id other : Nat} :
  other ∈ (c.dial id).2.filterMap ChannelEffect.dialer? ↔ c.halted = false ∧ other = id
  := by
  obtain ⟨hhalted, heq⟩ | ⟨hhalted, heq⟩ := c.dial_cases id
  · simp [heq, hhalted]
  · simp [heq, hhalted, ChannelEffect.dialer?]

/-- A supervisor comes to dial: it runs for the first time, it answers a call, or it has waited
long enough. -/
inductive Comes (c : Channel) (now : Nat) (id : Nat) : ChannelInput → Prop
  | start (phase : c.phase id = .created) : Comes c now id (.start id)
  | called {due : Nat} {called : Bool} (phase : c.phase id = .waiting due called)
    (call : called = true ∨ c.permit = true) : Comes c now id (.called id)
  | elapsed {due : Nat} {called : Bool} (phase : c.phase id = .waiting due called)
    (past : due ≤ now) : Comes c now id (.elapsed id)

theorem Comes.ne_ended (h : c.Comes now id x) :
  c.phase id ≠ .ended
  := by
  cases h with
  | start phase | called phase | elapsed phase =>
      rw [phase]
      nofun

/-- A supervisor that comes to dial does so, or ends, as the flag says. -/
theorem Comes.step_eq (h : c.Comes now id x) :
  ∃ d : Channel, c.step now x = d.dial id ∧ d.halted = c.halted ∧ d.phase id ≠ .ended
  := by
  have hlive := h.ne_ended
  cases h with
  | start phase =>
      use c.update id fun s => { s with seen := c.version }
      constructor
      · simp only [step, phase]
      · use rfl
        rwa [c.phase_look]
  | @called due called phase call =>
      cases called with
      | true =>
          use c
          constructor
          · simp only [step, phase]
          · use rfl, hlive
      | false =>
          have hpermit : c.permit = true := call.resolve_left Bool.false_ne_true
          use { c with permit := false }
          constructor
          · simp only [step, phase, hpermit, if_true]
          · use rfl, hlive
  | @elapsed due called phase past =>
      have hcalls := c.calls_passOn called
      use c.passOn called
      constructor
      · simp only [step, phase, past, if_true]
      · constructor
        · rw [hcalls.shared]
        · exact hcalls.ne_ended hlive

/-- A supervisor begins to dial when it comes to that and the flag is not set. -/
theorem mem_dialers_iff :
  id ∈ c.dialers now x ↔ c.halted = false ∧ c.Comes now id x
  := by
  constructor
  · intro hid
    have hmove := c.move_step now x
    rw [dialers] at hid
    generalize (c.step now x).1 = b at hmove
    generalize (c.step now x).2 = effects at hmove hid
    cases hmove with
    | start phase =>
        obtain ⟨hhalted, rfl⟩ := mem_dialers_dial.mp hid
        use hhalted, .start phase
    | answer phase =>
        obtain ⟨hhalted, rfl⟩ := mem_dialers_dial.mp hid
        use hhalted, .called phase (.inl rfl)
    | rouse phase permit =>
        obtain ⟨hhalted, rfl⟩ := mem_dialers_dial.mp hid
        use hhalted, .called phase (.inr permit)
    | @elapse _ _ called phase past =>
        obtain ⟨hhalted, rfl⟩ := mem_dialers_dial.mp hid
        rw [(c.calls_passOn called).shared] at hhalted
        use hhalted, .elapsed phase past
    | _ => simp [ChannelEffect.dialer?] at hid
  · rintro ⟨hhalted, hcomes⟩
    obtain ⟨d, hstep, heq, _⟩ := hcomes.step_eq
    rw [dialers, hstep, mem_dialers_dial, heq]
    use hhalted

/-- A supervisor that begins to dial is dialing then. -/
theorem phase_of_mem_dialers (h : id ∈ c.dialers now x) :
  (c.step now x).1.phase id = .dialing
  := by
  obtain ⟨hhalted, hcomes⟩ := mem_dialers_iff.mp h
  obtain ⟨d, hstep, heq, hlive⟩ := hcomes.step_eq
  rw [hstep]
  obtain ⟨hset, _⟩ | ⟨_, hdial⟩ := d.dial_cases id
  · rw [heq, hhalted] at hset
    nomatch hset
  · rw [hdial]
    apply (d.phase_enter hlive .dialing id).trans
    apply if_pos rfl

theorem loser?_eq_some_iff :
  c.loser? x = some id
    ↔ (x = .dialed id false ∧ c.phase id = .dialing) ∨ ∃ queue, c.Loses id queue x
  := by
  constructor
  · intro h
    cases x with
    | dialed other accepted =>
        cases accepted with
        | true => nomatch h
        | false =>
            obtain ⟨hphase, hid⟩ := Option.ite_none_right_eq_some.mp h
            obtain rfl := Option.some.inj hid
            left
            use rfl
    | written other done =>
        cases done with
        | true => nomatch h
        | false =>
            right
            cases hphase : c.phase other with
            | writing frame queue =>
                simp only [loser?, hphase] at h
                obtain rfl := Option.some.inj h
                use frame :: queue, .broken hphase
            | created | dialing | opened | closing | waiting | ended => simp [loser?, hphase] at h
    | lost other =>
        right
        cases hphase : c.phase other with
        | opened queue =>
            simp only [loser?, hphase] at h
            obtain rfl := Option.some.inj h
            use queue, .lost hphase
        | created | dialing | writing | closing | waiting | ended => simp [loser?, hphase] at h
    | _ => nomatch h
  · rintro (⟨rfl, hphase⟩ | ⟨queue, hloses⟩)
    · rw [loser?, if_pos hphase]
    · cases hloses with
      | lost phase => simp only [loser?, phase]
      | broken phase => simp only [loser?, phase]

theorem Loses.ne_ended {queue : List Outgoing} (h : c.Loses id queue x) :
  c.phase id ≠ .ended
  := by
  cases h with
  | lost phase | broken phase =>
      rw [phase]
      nofun

/-- A supervisor that loses the channel, or could not get it, was not at its end, and waits
then. -/
theorem phase_of_loser (now : Nat) (h : c.loser? x = some id) :
  c.phase id ≠ .ended ∧ (c.step now x).1.phase id = .waiting (now + waitLength c.delay) false
  := by
  obtain ⟨hlive, hstep⟩ : c.phase id ≠ .ended ∧ (c.step now x).1.phase id
      = (c.enter id (.waiting (now + waitLength c.delay) false)).phase id := by
    obtain ⟨rfl, hphase⟩ | ⟨_, hloses⟩ := loser?_eq_some_iff.mp h
    · constructor
      · simp [hphase]
      · simp only [step, hphase]
        rfl
    · use hloses.ne_ended
      cases hloses with
      | lost hphase | broken hphase =>
          simp only [step, hphase]
          rfl
  use hlive
  rw [hstep, c.phase_enter hlive, if_pos rfl]

theorem not_mem_dialers_of_loser (h : c.loser? x = some id) :
  id ∉ c.dialers now x
  := by
  intro hdials
  have hdialing := phase_of_mem_dialers hdials
  rw [(phase_of_loser now h).2] at hdialing
  nomatch hdialing

/-- What becomes of a supervisor on an input. -/
inductive Fate (c : Channel) (now : Nat) (x : ChannelInput) (b : Channel) (id : Nat) : Prop
  /-- It goes on as it was. -/
  | same (phase : b.phase id = c.phase id)
  /-- It waits, and is called. -/
  | summoned {due : Nat} (before : c.phase id = .waiting due false)
    (after : b.phase id = .waiting due true) (call : x = .connect ∨ c.LeavesCall now x)
  /-- It goes over to something else that is no waiting. -/
  | busy (live : c.phase id ≠ .ended) (before : (c.phase id).due? = none)
    (after : (b.phase id).due? = none)
  | dials (mem : id ∈ c.dialers now x) (after : b.phase id = .dialing)
  | loses (loser : c.loser? x = some id) (after : b.phase id = .waiting (now + waitLength c.delay) false)
  | ends (after : b.phase id = .ended)
  | begins (fresh : id = c.fresh) (after : b.phase id = .created)

theorem Fate.of_phase_eq {d : Channel} (h : c.Fate now x d id) (heq : b.phase id = d.phase id) :
  c.Fate now x b id
  := by
  cases h with
  | same phase => apply Fate.same (heq.trans phase)
  | summoned before after call => apply Fate.summoned before (heq.trans after) call
  | busy live before after =>
      apply Fate.busy live before
      rwa [heq]
  | dials mem after => apply Fate.dials mem (heq.trans after)
  | loses loser after => apply Fate.loses loser (heq.trans after)
  | ends after => apply Fate.ends (heq.trans after)
  | begins fresh after => apply Fate.begins fresh (heq.trans after)

theorem Calls.fate (h : c.Calls b) (hcall : x = .connect ∨ c.LeavesCall now x) (id : Nat) :
  c.Fate now x b id
  := by
  obtain heq | ⟨due, hbefore, hafter⟩ := h.phase id
  · apply Fate.same heq
  · apply Fate.summoned hbefore hafter hcall

/-- A supervisor goes over to another phase, and the others go on as they were. -/
theorem fate_enter {d : Channel} {other : Nat} (hlive : d.phase other ≠ .ended) {phase : Phase}
    (hown : (d.enter other phase).phase other = phase → c.Fate now x (d.enter other phase) other)
    (hothers : id ≠ other → c.Fate now x d id) :
  c.Fate now x (d.enter other phase) id
  := by
  by_cases heq : id = other
  · subst heq
    apply hown
    rw [d.phase_enter hlive, if_pos rfl]
  · apply (hothers heq).of_phase_eq
    rw [d.phase_enter hlive, if_neg heq]

/-- A supervisor comes to dial, and the others go on as they were. -/
theorem fate_dial {d : Channel} {other : Nat} (hlive : d.phase other ≠ .ended)
    (hdialers : c.dialers now x = (d.dial other).2.filterMap ChannelEffect.dialer?)
    (hothers : id ≠ other → c.Fate now x d id) :
  c.Fate now x (d.dial other).1 id
  := by
  obtain ⟨_, heq⟩ | ⟨hhalted, heq⟩ := d.dial_cases other
  · rw [heq]
    apply fate_enter hlive Fate.ends hothers
  · have hmem : other ∈ c.dialers now x := by
      rw [hdialers, mem_dialers_dial]
      use hhalted
    rw [heq]
    apply (fate_enter hlive (Fate.dials hmem) hothers).of_phase_eq
    rfl

/-- Every move is the fate of all supervisors. -/
theorem Move.fate (h : c.Move now x b effects) (hids : ∀ s ∈ c.supervisors, s.id < c.fresh)
    (hdialers : c.dialers now x = effects.filterMap ChannelEffect.dialer?) (id : Nat) :
  c.Fate now x b id
  := by
  have hbusy {other : Nat} {phase after : Phase} (hphase : c.phase other = phase)
      (hbefore : phase ≠ .ended ∧ phase.due? = none) (hafter : after.due? = none) :
      c.Fate now x (c.enter other after) id := by
    subst hphase
    apply fate_enter hbefore.1
    · intro heq
      apply Fate.busy hbefore.1 hbefore.2
      rwa [heq]
    · intro _
      apply Fate.same rfl
  have hloses {other : Nat} (hloser : c.loser? x = some other) :
      c.Fate now x (c.enter other (.waiting (now + waitLength c.delay) false)) id :=
    fate_enter (phase_of_loser now hloser).1 (Fate.loses hloser) fun _ => .same rfl
  have hends {other : Nat} {phase : Phase} (hphase : c.phase other = phase)
      (hlive : phase ≠ .ended) : c.Fate now x (c.enter other .ended) id :=
    fate_enter (hphase ▸ hlive) Fate.ends fun _ => .same rfl
  cases h with
  | idle => exact .same rfl
  | spawn =>
      have hphase := c.phase_spawn hids id
      by_cases hid : id = c.fresh
      · apply Fate.begins hid
        rw [hphase, if_pos hid]
      · apply Fate.same
        rw [hphase, if_neg hid]
  | summon => exact c.calls_callOut.fate (.inl rfl) id
  | halt => exact .same rfl
  | seize => exact .same rfl
  | finish => exact .same rfl
  | refuse => exact .same rfl
  | enqueue _ push =>
      obtain ⟨hlive, hbefore, hafter⟩ := Phase.due?_of_push push
      exact (hbusy rfl ⟨hlive, hbefore⟩ hafter).of_phase_eq rfl
  | start phase =>
      apply fate_dial _ hdialers
      · intro _
        apply Fate.same
        apply c.phase_look
      · rw [c.phase_look, phase]
        nofun
  | answer phase =>
      apply fate_dial _ hdialers fun _ => .same rfl
      rw [phase]
      nofun
  | @rouse other _ phase =>
      have hlive : c.phase other ≠ .ended := by
        rw [phase]
        nofun
      exact fate_dial (d := { c with permit := false }) hlive hdialers fun _ => .same rfl
  | @elapse other due called phase past =>
      have hcalls := c.calls_passOn called
      apply fate_dial _ hdialers
      · intro _
        cases called with
        | false => exact .same rfl
        | true =>
            have hcall : c.LeavesCall now (.elapsed other) := ⟨due, past, phase⟩
            exact hcalls.fate (.inr hcall) id
      · exact hcalls.ne_ended (phase ▸ nofun)
  | opened phase => exact (hbusy phase ⟨nofun, rfl⟩ rfl).of_phase_eq rfl
  | @failed other phase =>
      have hloser := loser?_eq_some_iff.mpr (.inl ⟨rfl, phase⟩)
      exact (hloses hloser).of_phase_eq rfl
  | lose loses =>
      have hloser := loser?_eq_some_iff.mpr (.inr ⟨_, loses⟩)
      exact (hloses hloser).of_phase_eq rfl
  | giveUp phase => exact hends phase nofun
  | @leave other due called phase news =>
      have hended := hends phase nofun
      cases called with
      | false => exact hended
      | true =>
          obtain heq | ⟨due', hbefore, hafter⟩ := ((c.enter other .ended).calls_passOn true).phase id
          · exact hended.of_phase_eq heq
          · have hlive : c.phase other ≠ .ended := by
              rw [phase]
              nofun
            rw [c.phase_enter hlive] at hbefore
            split at hbefore
            · nomatch hbefore
            · have hcall : c.LeavesCall now (.noticed other) := ⟨news, due, phase⟩
              exact .summoned hbefore hafter (.inr hcall)
  | @close other queue phase =>
      have hlive : c.phase other ≠ .ended := by
        rw [phase]
        nofun
      have hafter := c.phase_update other
        (f := fun s => { s with seen := c.version, phase := .closing queue })
        (fun _ => rfl) (fun _ => rfl) hlive id
      by_cases heq : id = other
      · rw [if_pos heq] at hafter
        apply Fate.busy
        · rwa [heq]
        · rw [heq, phase]
          rfl
        · rw [hafter]
          rfl
      · rw [if_neg heq] at hafter
        apply Fate.same hafter
  | closed phase => exact (hends phase nofun).of_phase_eq rfl
  | take phase => exact hbusy phase ⟨nofun, rfl⟩ rfl
  | written phase => exact hbusy phase ⟨nofun, rfl⟩ rfl
  | receive => exact .same rfl
  | malformed => exact .same rfl

theorem permit_dial (c : Channel) (id : Nat) :
  (c.dial id).1.permit = c.permit
  := by
  obtain ⟨_, heq⟩ | ⟨_, heq⟩ := c.dial_cases id
  · rw [heq]
    rfl
  · rw [heq]
    rfl

/-- Nobody has to hear a call that is not left over. -/
theorem Move.permit_eq_false (h : c.Move now x b effects) (hheard : ¬ c.LeavesCall now x)
    (hpermit : c.permit = false) :
  b.permit = false
  := by
  cases h with
  | @summon id current live closed =>
      obtain ⟨_, _, _, heq⟩ | ⟨hset | hawake, _⟩ := c.callOut_cases
      · rw [heq]
        apply hpermit
      · rw [hpermit] at hset
        nomatch hset
      · apply absurd _ hheard
        use fun vacant => live (vacant id current), closed, hawake
  | start =>
      rw [permit_dial]
      apply hpermit
  | answer =>
      rw [permit_dial]
      apply hpermit
  | rouse phase permit =>
      rw [hpermit] at permit
      nomatch permit
  | @elapse id due called phase past =>
      rw [permit_dial]
      cases called with
      | false => apply hpermit
      | true => exact absurd ⟨due, past, phase⟩ hheard
  | @leave id due called phase news =>
      cases called with
      | false => apply hpermit
      | true => exact absurd ⟨news, due, phase⟩ hheard
  | _ => apply hpermit

end Channel

end Greenhouse
