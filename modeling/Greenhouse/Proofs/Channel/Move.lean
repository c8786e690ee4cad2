import Mathlib.Data.List.Basic
import Greenhouse.Control.Channel

/-!
# Moves of the channel

`Channel.Move` says what one input can do: one case for every way in which it can go on, with what
has to hold before, the channel after it and its effects.  An input that is not possible is idle.
What holds of the channel is proved from the moves; `Channel.step` is taken apart only once, to
see that it makes them.
-/

namespace Greenhouse

/-- The phase with one more text in its queue, if there is a queue. -/
def Phase.push (frame : Outgoing) : Phase → Option Phase
  | .opened queue => some (.opened (queue ++ [frame]))
  | .writing current queue => some (.writing current (queue ++ [frame]))
  | .closing queue => some (.closing (queue ++ [frame]))
  | .created | .dialing | .waiting _ _ | .ended => none

/-- A supervisor that waits has been called. -/
def Supervisor.summon (s : Supervisor) : Supervisor :=
  match s.phase with
  | .waiting due _ => { s with phase := .waiting due true }
  | _ => s

theorem Supervisor.id_summon (s : Supervisor) :
  s.summon.id = s.id
  := by
  rw [Supervisor.summon]
  split <;> rfl

theorem Phase.of_push {frame : Outgoing} {phase after : Phase} (h : phase.push frame = some after) :
  phase ≠ .ended ∧ phase ≠ .created
  := by
  cases phase with
  | opened | writing | closing => simp
  | created | dialing | waiting | ended => nomatch h

namespace Channel

/-- What listeners hear when the channel takes a state. -/
def heard (c : Channel) (state : ConnectionState) : List ChannelEffect := (c.setState state).2

/-- The supervisor that the next `connect` or `stop` deals with has ended, if there is one. -/
def Vacant (c : Channel) : Prop := ∀ id ∈ c.current, c.phase id = .ended

/-- A supervisor loses the channel, and the texts that it has not written. -/
inductive Loses (c : Channel) (id : Nat) : List Outgoing → ChannelInput → Prop
  | lost {queue : List Outgoing} (phase : c.phase id = .opened queue) : Loses c id queue (.lost id)
  | broken {frame : Outgoing} {queue : List Outgoing} (phase : c.phase id = .writing frame queue) :
    Loses c id (frame :: queue) (.written id false)

/-- What an input can do at a time. -/
inductive Move (c : Channel) (now : Nat) :
    ChannelInput → Channel → List ChannelEffect → Prop
  | idle (x : ChannelInput) : Move c now x c []
  | spawn (vacant : c.Vacant) : Move c now .connect c.spawn []
  | summon {id : Nat} (current : c.current = some id) (live : c.phase id ≠ .ended)
    (closed : c.state = .closed) : Move c now .connect c.callOut []
  | halt (vacant : c.Vacant) :
    Move c now .stop
      { c.setHalted true with current := none, outlet := none, state := .closed }
      (c.heard .closed ++ [.stopped])
  | seize {id : Nat} (current : c.current = some id) (live : c.phase id ≠ .ended) :
    Move c now .stop { c.setHalted true with current := none, stopping := c.stopping ++ [id] } []
  | finish {id : Nat} (stopping : id ∈ c.stopping) (phase : c.phase id = .ended) :
    Move c now (.finish id)
      { c with stopping := c.stopping.erase id, outlet := none, state := .closed }
      (c.heard .closed ++ [.stopped])
  | refuse {text : String} (outlet : ∀ id ∈ c.outlet, (c.phase id).push ⟨c.fresh, text⟩ = none) :
    Move c now (.send text) { c with fresh := c.fresh + 1 }
      [.answer c.fresh (.error .notOpen)]
  | enqueue {text : String} {id : Nat} {phase : Phase} (outlet : c.outlet = some id)
    (push : (c.phase id).push ⟨c.fresh, text⟩ = some phase) :
    Move c now (.send text) { c.enter id phase with fresh := c.fresh + 1 } []
  | start {id : Nat} (phase : c.phase id = .created) :
    Move c now (.start id) ((c.update id fun s => { s with seen := c.version }).dial id).1
      ((c.update id fun s => { s with seen := c.version }).dial id).2
  | answer {id due : Nat} (phase : c.phase id = .waiting due true) :
    Move c now (.called id) (c.dial id).1 (c.dial id).2
  | rouse {id due : Nat} (phase : c.phase id = .waiting due false) (permit : c.permit = true) :
    Move c now (.called id) ({ c with permit := false }.dial id).1
      ({ c with permit := false }.dial id).2
  | elapse {id due : Nat} {called : Bool} (phase : c.phase id = .waiting due called)
    (past : due ≤ now) :
    Move c now (.elapsed id) ((c.passOn called).dial id).1 ((c.passOn called).dial id).2
  | opened {id : Nat} (phase : c.phase id = .dialing) :
    Move c now (.dialed id true)
      { c.enter id (.opened []) with outlet := some id, state := .opened } (c.heard .opened)
  | failed {id : Nat} (phase : c.phase id = .dialing) :
    Move c now (.dialed id false)
      { c.enter id (.waiting (now + waitLength c.delay) false) with state := .closed }
      (c.heard .closed ++ [.count .reconnectAttempts])
  | lose {id : Nat} {queue : List Outgoing} {x : ChannelInput} (loses : c.Loses id queue x) :
    Move c now x
      { c.enter id (.waiting (now + waitLength c.delay) false) with
        outlet := none, state := .closed }
      (discard queue ++ c.heard .closed ++ [.count .reconnectAttempts])
  | giveUp {id : Nat} (phase : c.phase id = .dialing) (news : c.isNews id) :
    Move c now (.noticed id) (c.enter id .ended) []
  | leave {id due : Nat} {called : Bool} (phase : c.phase id = .waiting due called)
    (news : c.isNews id) : Move c now (.noticed id) ((c.enter id .ended).passOn called) []
  | close {id : Nat} {queue : List Outgoing} (phase : c.phase id = .opened queue)
    (news : c.isNews id) :
    Move c now (.noticed id)
      (c.update id fun s => { s with seen := c.version, phase := .closing queue }) []
  | closed {id : Nat} {queue : List Outgoing} (phase : c.phase id = .closing queue) :
    Move c now (.closed id) { c.enter id .ended with outlet := none, state := .closed }
      (discard queue ++ c.heard .closed)
  | take {id : Nat} {frame : Outgoing} {queue : List Outgoing}
    (phase : c.phase id = .opened (frame :: queue)) :
    Move c now (.take id) (c.enter id (.writing frame queue)) []
  | written {id : Nat} {frame : Outgoing} {queue : List Outgoing}
    (phase : c.phase id = .writing frame queue) :
    Move c now (.written id true) (c.enter id (.opened queue))
      [.wrote id frame, .answer frame.ticket (.ok ())]
  | receive {id : Nat} {text : String} {queue : List Outgoing} {frame : Frame}
    (phase : c.phase id = .opened queue) (parse : Frame.parse text = .ok frame) :
    Move c now (.received id text) c [.count .framesReceived, .signal (.inbound frame)]
  | malformed {id : Nat} {text : String} {queue : List Outgoing} {e : FrameError}
    (phase : c.phase id = .opened queue) (parse : Frame.parse text = .error e) :
    Move c now (.received id text) c [.count .framesMalformed]

theorem step_send_of_refused {c : Channel} {now : Nat} {text : String}
    (h : ∀ id ∈ c.outlet, (c.phase id).push ⟨c.fresh, text⟩ = none) :
  c.step now (.send text)
    = ({ c with fresh := c.fresh + 1 }, [.answer c.fresh (.error .notOpen)])
  := by
  rw [step, send]
  cases houtlet : c.outlet with
  | none => rfl
  | some id =>
      have hpush := h id houtlet
      have hphase : phase { c with fresh := c.fresh + 1 } id = c.phase id := rfl
      rw [houtlet] at hphase
      cases hid : c.phase id with
      | opened | writing | closing =>
          rw [hid] at hpush
          nomatch hpush
      | created | dialing | waiting | ended => simp only [hphase, hid]

theorem step_send_of_push {c : Channel} {now : Nat} {text : String} {id : Nat} {phase : Phase}
    (houtlet : c.outlet = some id) (hpush : (c.phase id).push ⟨c.fresh, text⟩ = some phase) :
  c.step now (.send text) = ({ c.enter id phase with fresh := c.fresh + 1 }, [])
  := by
  have hphase : Channel.phase { c with fresh := c.fresh + 1 } id = c.phase id := rfl
  rw [step, send]
  simp only [houtlet] at hphase ⊢
  cases hid : c.phase id with
  | opened | writing | closing =>
      rw [hid] at hpush
      obtain rfl := Option.some.inj hpush
      simp only [hphase, hid]
      simp only [enter, update, houtlet]
  | created | dialing | waiting | ended =>
      rw [hid] at hpush
      nomatch hpush

/-- A text that is sent is taken by a supervisor, or it is refused. -/
theorem step_send_cases (c : Channel) (now : Nat) (text : String) :
  ((∀ id ∈ c.outlet, (c.phase id).push ⟨c.fresh, text⟩ = none)
      ∧ c.step now (.send text)
        = ({ c with fresh := c.fresh + 1 }, [.answer c.fresh (.error .notOpen)]))
    ∨ ∃ id phase, c.outlet = some id ∧ (c.phase id).push ⟨c.fresh, text⟩ = some phase
      ∧ c.step now (.send text) = ({ c.enter id phase with fresh := c.fresh + 1 }, [])
  := by
  by_cases houtlet : ∀ id ∈ c.outlet, (c.phase id).push ⟨c.fresh, text⟩ = none
  · left
    use houtlet, step_send_of_refused houtlet
  · right
    obtain ⟨id, hid, hpush⟩ : ∃ id ∈ c.outlet, (c.phase id).push ⟨c.fresh, text⟩ ≠ none := by
      simpa using houtlet
    obtain ⟨phase, hpush⟩ := Option.ne_none_iff_exists'.mp hpush
    use id, phase, hid, hpush
    apply step_send_of_push hid hpush

theorem step_stop_of_vacant {c : Channel} {now : Nat} (h : c.Vacant) :
  c.step now .stop
    = ({ c.setHalted true with current := none, outlet := none, state := .closed },
      c.heard .closed ++ [.stopped])
  := by
  rw [step, stop]
  cases hcurrent : c.current with
  | none =>
      simp only [setHalted, hcurrent]
      rfl
  | some id =>
      simp only [setHalted, hcurrent]
      apply if_pos (h id hcurrent)

theorem step_stop_of_live {c : Channel} {now id : Nat} (hcurrent : c.current = some id)
    (hlive : c.phase id ≠ .ended) :
  c.step now .stop
    = ({ c.setHalted true with current := none, stopping := c.stopping ++ [id] }, [])
  := by
  rw [step, stop]
  simp only [setHalted, hcurrent]
  apply if_neg hlive

theorem vacant_or_live (c : Channel) :
  c.Vacant ∨ ∃ id, c.current = some id ∧ c.phase id ≠ .ended
  := by
  cases hcurrent : c.current with
  | none =>
      left
      simp [Vacant, hcurrent]
  | some id =>
      by_cases hended : c.phase id = .ended
      · left
        simp [Vacant, hcurrent, hended]
      · right
        use id

/-- After `stop` there is no supervisor to deal with, and the flag is set.  Supervisors go on as
they were, and if a `stop` waits for one more, it is the one there was to deal with. -/
theorem step_stop (c : Channel) (now : Nat) :
  (c.step now .stop).1.current = none ∧ (c.step now .stop).1.halted = true
    ∧ (∀ id, (c.step now .stop).1.phase id = c.phase id)
    ∧ ∀ id ∈ (c.step now .stop).1.stopping, id ∈ c.stopping ∨ c.current = some id
  := by
  obtain hvacant | ⟨id, hcurrent, hlive⟩ := c.vacant_or_live
  · rw [step_stop_of_vacant hvacant]
    use rfl, rfl, fun _ => rfl
    intro other hother
    left
    apply hother
  · rw [step_stop_of_live hcurrent hlive]
    use rfl, rfl, fun _ => rfl
    intro other hother
    obtain hother | hother := List.mem_append.mp hother
    · left
      apply hother
    · right
      rw [List.mem_singleton.mp hother]
      apply hcurrent

theorem step_connect_of_vacant {c : Channel} {now : Nat} (h : c.Vacant) :
  c.step now .connect = (c.spawn, [])
  := by
  rw [step, connect]
  cases hcurrent : c.current with
  | none => rfl
  | some id => simp only [h id hcurrent, if_true]

theorem move_step (c : Channel) (now : Nat) (x : ChannelInput) :
  c.Move now x (c.step now x).1 (c.step now x).2
  := by
  cases x with
  | connect =>
      obtain hvacant | ⟨id, hcurrent, hlive⟩ := c.vacant_or_live
      · rw [step_connect_of_vacant hvacant]
        apply Move.spawn hvacant
      · simp only [step, connect, hcurrent, hlive, if_false]
        split
        · next hclosed => apply Move.summon hcurrent hlive hclosed
        · apply Move.idle
  | stop =>
      obtain hvacant | ⟨id, hcurrent, hlive⟩ := c.vacant_or_live
      · rw [step_stop_of_vacant hvacant]
        apply Move.halt hvacant
      · rw [step_stop_of_live hcurrent hlive]
        apply Move.seize hcurrent hlive
  | finish id =>
      simp only [step]
      split
      · next h =>
          apply Move.finish _ h.2
          simpa using h.1
      · apply Move.idle
  | send text =>
      obtain ⟨houtlet, hstep⟩ | ⟨id, phase, hid, hpush, hstep⟩ := c.step_send_cases now text
      · rw [hstep]
        apply Move.refuse houtlet
      · rw [hstep]
        apply Move.enqueue hid hpush
  | start id =>
      simp only [step]
      split
      · next h => apply Move.start h
      · apply Move.idle
  | dialed id accepted =>
      simp only [step]
      split
      · next h =>
          cases accepted with
          | true => apply Move.opened h
          | false => apply Move.failed h
      · apply Move.idle
  | noticed id =>
      simp only [step]
      split
      · next hnews =>
          split
          · next h => apply Move.giveUp h hnews
          · next h => apply Move.close h hnews
          · next h => apply Move.leave h hnews
          · apply Move.idle
      · apply Move.idle
  | take id =>
      simp only [step]
      split
      · next h => apply Move.take h
      · apply Move.idle
  | written id done =>
      simp only [step]
      split
      · next h =>
          cases done with
          | true => apply Move.written h
          | false => apply Move.lose (.broken h)
      · apply Move.idle
  | received id text =>
      simp only [step]
      split
      · next h =>
          split
          · next hparse => apply Move.receive h hparse
          · next hparse => apply Move.malformed h hparse
      · apply Move.idle
  | ignored id => apply Move.idle
  | lost id =>
      simp only [step]
      split
      · next h => apply Move.lose (.lost h)
      · apply Move.idle
  | closed id =>
      simp only [step]
      split
      · next h => apply Move.closed h
      · apply Move.idle
  | called id =>
      simp only [step]
      split
      · next h => apply Move.answer h
      · next h =>
          split
          · next hpermit => apply Move.rouse h hpermit
          · apply Move.idle
      · apply Move.idle
  | elapsed id =>
      simp only [step]
      split
      · next h =>
          split
          · next hpast => apply Move.elapse h hpast
          · apply Move.idle
      · apply Move.idle

/-! ### Supervisors -/

variable (c : Channel)

theorem supervisor?_update (id : Nat) {f : Supervisor → Supervisor} (hf : ∀ s, (f s).id = s.id)
    (other : Nat) :
  (c.update id f).supervisor? other
    = if other = id then (c.supervisor? other).map f else c.supervisor? other
  := by
  have hsame : ((fun s : Supervisor => s.id == other) ∘ fun s => if s.id = id then f s else s)
      = fun s => s.id == other := by
    funext s
    simp only [Function.comp_apply]
    split <;> simp [hf]
  rw [supervisor?, update, List.find?_map, hsame, supervisor?]
  cases hfind : c.supervisors.find? fun s => s.id == other with
  | none => simp
  | some s =>
      have hid : s.id = other := by simpa using List.find?_some hfind
      by_cases hother : other = id <;> simp [hid, hother]

theorem phase_update (id : Nat) {f : Supervisor → Supervisor} (hf : ∀ s, (f s).id = s.id)
    {phase : Phase} (hphase : ∀ s, (f s).phase = phase) (hlive : c.phase id ≠ .ended) (other : Nat) :
  (c.update id f).phase other = if other = id then phase else c.phase other
  := by
  rw [Channel.phase, supervisor?_update c id hf]
  by_cases hother : other = id
  · subst hother
    rw [if_pos rfl, if_pos rfl]
    cases hs : c.supervisor? other with
    | none =>
        apply absurd _ hlive
        rw [Channel.phase, hs]
        rfl
    | some s => simp [hphase]
  · rw [if_neg hother, if_neg hother, Channel.phase]

theorem phase_enter {id : Nat} (hlive : c.phase id ≠ .ended) (phase : Phase) (other : Nat) :
  (c.enter id phase).phase other = if other = id then phase else c.phase other
  := c.phase_update id (f := fun s => { s with phase }) (fun _ => rfl) (fun _ => rfl) hlive other

theorem phase_look (id version other : Nat) :
  (c.update id fun s => { s with seen := version }).phase other = c.phase other
  := by
  rw [Channel.phase, supervisor?_update c id (f := fun s => { s with seen := version }) fun _ => rfl,
    Channel.phase]
  split
  · cases c.supervisor? other <;> rfl
  · rfl

theorem isNews_enter (id : Nat) (phase : Phase) (other : Nat) :
  (c.enter id phase).isNews other = c.isNews other
  := by
  rw [isNews, enter, supervisor?_update c id (f := fun s => { s with phase }) fun _ => rfl]
  split
  · cases hs : c.supervisor? other <;> simp [isNews, hs, update]
  · rfl

theorem ids_update (id : Nat) {f : Supervisor → Supervisor} (hf : ∀ s, (f s).id = s.id) :
  (c.update id f).supervisors.map Supervisor.id = c.supervisors.map Supervisor.id
  := by
  rw [update, List.map_map]
  apply List.map_congr_left
  intro s _
  simp only [Function.comp_apply]
  split <;> simp [hf]

/-- A channel with other calls: some that wait have been called, and calls may be left over. -/
structure Calls (c b : Channel) : Prop where
  shared : b = { c with permit := b.permit, supervisors := b.supervisors }
  ids : b.supervisors.map Supervisor.id = c.supervisors.map Supervisor.id
  phase : ∀ id, b.phase id = c.phase id
    ∨ ∃ due, c.phase id = .waiting due false ∧ b.phase id = .waiting due true
  news : ∀ id, b.isNews id = c.isNews id

theorem calls_self : c.Calls c := ⟨rfl, rfl, fun _ => .inl rfl, fun _ => rfl⟩

/-- Nobody waits who has not been called. -/
def Awake (c : Channel) : Prop := ∀ s ∈ c.supervisors, ∀ due, s.phase ≠ .waiting due false

/-- A call is heard by somebody who waits, unless one is left over already; otherwise it is left
over. -/
theorem callOut_cases :
  (c.permit = false ∧ ¬ c.Awake ∧ ∃ id, c.callOut = c.update id Supervisor.summon)
    ∨ ((c.permit = true ∨ c.Awake) ∧ c.callOut = { c with permit := true })
  := by
  simp only [callOut]
  split
  · next id hpermit hfind =>
      left
      use hpermit
      constructor
      · intro hawake
        obtain ⟨s, hs, hsleeping⟩ := List.exists_of_findSome?_eq_some hfind
        split at hsleeping
        · next due hphase => apply hawake s hs due hphase
        · nomatch hsleeping
      · use id
        rfl
  · next hcases =>
      right
      constructor
      · cases hpermit : c.permit with
        | true =>
            left
            rfl
        | false =>
            right
            intro s hs due hphase
            have hnone := List.findSome?_eq_none_iff.mp
              (Option.eq_none_iff_forall_ne_some.mpr fun id hid => hcases id hpermit hid) s hs
            rw [hphase] at hnone
            nomatch hnone
      · rfl

theorem calls_callOut :
  c.Calls c.callOut
  := by
  obtain ⟨_, _, id, heq⟩ | ⟨_, heq⟩ := c.callOut_cases
  · rw [heq]
    constructor
    · rfl
    · apply c.ids_update id Supervisor.id_summon
    · intro other
      rw [Channel.phase, supervisor?_update c id Supervisor.id_summon, Channel.phase]
      by_cases hother : other = id
      · rw [if_pos hother]
        cases c.supervisor? other with
        | none =>
            left
            rfl
        | some s =>
            cases hs : s.phase with
            | waiting due called => cases called <;> simp [Supervisor.summon, hs]
            | created | dialing | opened | writing | closing | ended =>
                simp [Supervisor.summon, hs]
      · left
        rw [if_neg hother]
    · intro other
      rw [isNews, supervisor?_update c id Supervisor.id_summon, isNews]
      split
      · cases c.supervisor? other with
        | none => rfl
        | some s => cases hs : s.phase <;> simp [Supervisor.summon, hs, update]
      · rfl
  · rw [heq]
    constructor
    · rfl
    · rfl
    · intro other
      left
      rfl
    · intro other
      rfl

theorem calls_passOn (called : Bool) :
  c.Calls (c.passOn called)
  := by
  cases called with
  | true => apply c.calls_callOut
  | false => apply c.calls_self

variable {c} in
theorem Calls.phase_eq_iff {b : Channel} (h : c.Calls b) {phase : Phase}
    (hphase : ∀ due called, phase ≠ .waiting due called) (id : Nat) :
  b.phase id = phase ↔ c.phase id = phase
  := by
  obtain heq | ⟨due, hbefore, hafter⟩ := h.phase id
  · rw [heq]
  · rw [hbefore, hafter]
    constructor
    · intro heq
      apply absurd heq.symm (hphase due true)
    · intro heq
      apply absurd heq.symm (hphase due false)

variable {c} in
theorem Calls.ne_ended {b : Channel} (h : c.Calls b) {id : Nat} (hlive : c.phase id ≠ .ended) :
  b.phase id ≠ .ended
  := mt (h.phase_eq_iff (by simp) id).mp hlive

/-- A supervisor that comes to dial ends, or dials. -/
theorem dial_cases (id : Nat) :
  (c.halted = true ∧ c.dial id = (c.enter id .ended, []))
    ∨ (c.halted = false ∧ c.dial id
      = ({ c.enter id .dialing with state := .connecting }, c.heard .connecting ++ [.dial id]))
  := by
  rw [dial]
  cases c.halted with
  | true =>
      left
      constructor <;> rfl
  | false =>
      right
      constructor <;> rfl

/-- A new supervisor has not run yet. -/
theorem phase_spawn (hids : ∀ s ∈ c.supervisors, s.id < c.fresh) (id : Nat) :
  c.spawn.phase id = if id = c.fresh then .created else c.phase id
  := by
  have hsupervisor : c.spawn.supervisor? id
      = (c.supervisor? id).or (if c.fresh = id then some ⟨c.fresh, 0, .created⟩ else none) := by
    simp only [supervisor?, spawn, setHalted, List.find?_append, List.find?_singleton, beq_iff_eq]
  rw [Channel.phase, hsupervisor, Channel.phase]
  by_cases hid : id = c.fresh
  · have hnone : c.supervisor? c.fresh = none := by
      rw [supervisor?, List.find?_eq_none]
      intro s hs
      have hlt := hids s hs
      simp only [beq_iff_eq]
      omega
    subst hid
    simp [hnone]
  · have hne : ¬ c.fresh = id := fun h => hid h.symm
    simp [hid, hne]

end Channel

end Greenhouse
