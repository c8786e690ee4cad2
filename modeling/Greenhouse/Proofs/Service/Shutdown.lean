import Greenhouse.Proofs.Autosave.Settling
import Greenhouse.Proofs.Channel.Lifecycle
import Greenhouse.Proofs.Service.Parts

/-!
# Stopping a bridge

A call of `stop` saves the sections with unsaved edits one after the other, stops the channel, and
then ends the router and the watchdog.  It waits for the answer to each save, for the supervisor
that it has stopped and for the router, and the other parts of the bridge go on meanwhile: timers
run down, sections are closed, replies arrive.  A `Shutdown` is the bridge during such a call,
with what has been done since the call was made.

As long as nobody edits, starts the bridge or stops it once more (`Shutdown.Undisturbed`), the
drafts settle: the sections are saved in order, each at most once, and just those whose save is
confirmed lose their draft (`Shutdown.Saves`).
-/

namespace Greenhouse

namespace Channel

/-- The supervisor for whose end a `stop` would wait. -/
def awaited? (c : Channel) : Option Nat := c.current.filter fun id => c.phase id ≠ .ended

end Channel

namespace Service

/-- The save that is sent on an input, if there is one. -/
def sends (s : Service) (x : ServiceInput) : Option Save :=
  x.settings?.bind fun y => (s.bridge.autosave.step y).2.1

/-- The save that an input confirms. -/
def confirms (s : Service) (x : ServiceInput) : Option Save :=
  x.settings?.bind s.bridge.autosave.confirms

/-- The supervisors that begin to dial on an input. -/
def dialers (s : Service) (now : Nat) (x : ServiceInput) : List Nat :=
  (s.channelEffects now x).filterMap ChannelEffect.dialer?

end Service

/-- How far a call of `stop` has come. -/
inductive StopPhase where
  /-- These sections are still to be saved. -/
  | closing (rest : List String)
  /-- The answer to a save is awaited, and these sections come after it. -/
  | saving (save : Nat) (rest : List String)
  /-- The end of a supervisor is awaited. -/
  | joining (supervisor : Nat)
  /-- The end of the router is awaited. -/
  | routing
  /-- The call has returned. -/
  | returned
deriving DecidableEq

namespace StopPhase

/-- The sections that are still to be saved. -/
def rest : StopPhase → List String
  | .closing rest | .saving _ rest => rest
  | .joining _ | .routing | .returned => []

/-- A section has been closed, and these sections come after it. -/
def ofSent (sent : Option Save) (rest : List String) : StopPhase :=
  match sent with
  | some v => .saving v.id rest
  | none => .closing rest

/-- The channel has been stopped. -/
def ofAwaited : Option Nat → StopPhase
  | some id => .joining id
  | none => .routing

end StopPhase

/-- A bridge that is being stopped, and what has been done since. -/
structure Shutdown where
  service : Service
  phase : StopPhase
  /-- The saves that the call has sent. -/
  sent : List Save
  /-- The saves that have been sent beside it. -/
  aside : List Save
  /-- The saves that have been confirmed. -/
  confirmed : List Save
  events : List Event
  /-- The supervisors that have begun to dial. -/
  dials : List Nat

/-- The call goes on, unless it has to wait, or another part of the bridge does. -/
inductive ShutdownInput where
  | proceed
  | other (x : ServiceInput)

/-- Whether an input is an edit, or belongs to another call that starts or stops the bridge. -/
def ServiceInput.meddles : ServiceInput → Bool
  | .start | .halt => true
  | .channel .connect | .channel .stop | .channel (.finish _) => true
  | .settings (.edit _ _ _ _) => true
  | _ => false

/-- Whether an input belongs to a call. -/
def ServiceInput.isCall : ServiceInput → Bool
  | .submit _ | .order _ | .channel (.send _) | .settings (.flush _) => true
  | x => x.meddles

namespace Shutdown

/-- The bridge is to be stopped. -/
def ofService (s : Service) : Shutdown :=
  ⟨s, .closing s.bridge.autosave.pendingNames, [], [], [], [], []⟩

/-- A part of the bridge goes on, and what it does is noted. -/
def goOn (d : Shutdown) (now : Nat) (x : ServiceInput) : Shutdown :=
  { d with
    service := (d.service.step now x).1
    confirmed := d.confirmed ++ (d.service.confirms x).toList
    events := d.events ++ (d.service.step now x).2.filterMap Effect.event?
    dials := d.dials ++ d.service.dialers now x }

/-- The call goes on, unless it has to wait. -/
def proceed (d : Shutdown) (now : Nat) : Shutdown :=
  match d.phase with
  | .closing (name :: rest) =>
    { d.goOn now (.settings (.flush name)) with
      phase := .ofSent (d.service.sends (.settings (.flush name))) rest
      sent := d.sent ++ (d.service.sends (.settings (.flush name))).toList }
  | .saving save rest =>
    if d.service.bridge.autosave.saves.any fun v => v.id = save then d
    else { d with phase := .closing rest }
  | .closing [] =>
    { d.goOn now (.channel .stop) with phase := .ofAwaited d.service.bridge.channel.awaited? }
  | .joining id =>
    if d.service.bridge.channel.phase id = .ended then
      { d.goOn now (.channel (.finish id)) with phase := .routing }
    else d
  | .routing =>
    match d.service.bridge.inbox with
    | some _ => if d.service.isDrained then { d.goOn now .halt with phase := .returned } else d
    -- nothing has been started, or it has been stopped before
    | none => { d with service := (d.service.watch now .stop).1, phase := .returned }
  | .returned => d

def step (d : Shutdown) (now : Nat) : ShutdownInput → Shutdown
  | .proceed => d.proceed now
  | .other x => { d.goOn now x with aside := d.aside ++ (d.service.sends x).toList }

def run (d : Shutdown) (inputs : List (Nat × ShutdownInput)) : Shutdown :=
  inputs.foldl (fun d input => d.step input.1 input.2) d

theorem run_append (d : Shutdown) (inputs more : List (Nat × ShutdownInput)) :
  d.run (inputs ++ more) = (d.run inputs).run more
  := List.foldl_append

theorem run_append_singleton (d : Shutdown) (inputs : List (Nat × ShutdownInput))
    (input : Nat × ShutdownInput) :
  d.run (inputs ++ [input]) = (d.run inputs).step input.1 input.2
  := d.run_append inputs [input]

/-- How the call can go on: one case for everything that it does, with what it was waiting for. -/
inductive Proceeds (d : Shutdown) (now : Nat) : Shutdown → Prop
  | waits : Proceeds d now d
  | close {name : String} {rest : List String} (phase : d.phase = .closing (name :: rest)) :
    Proceeds d now
      { d.goOn now (.settings (.flush name)) with
        phase := .ofSent (d.service.sends (.settings (.flush name))) rest
        sent := d.sent ++ (d.service.sends (.settings (.flush name))).toList }
  | answered {save : Nat} {rest : List String} (phase : d.phase = .saving save rest)
    (answered : ∀ v ∈ d.service.bridge.autosave.saves, v.id ≠ save) :
    Proceeds d now { d with phase := .closing rest }
  | stop (phase : d.phase = .closing []) :
    Proceeds d now
      { d.goOn now (.channel .stop) with phase := .ofAwaited d.service.bridge.channel.awaited? }
  | join {id : Nat} (phase : d.phase = .joining id)
    (ended : d.service.bridge.channel.phase id = .ended) :
    Proceeds d now { d.goOn now (.channel (.finish id)) with phase := .routing }
  | halt (phase : d.phase = .routing) (drained : d.service.isDrained = true) :
    Proceeds d now { d.goOn now .halt with phase := .returned }
  | leave (phase : d.phase = .routing) (inbox : d.service.bridge.inbox = none) :
    Proceeds d now { d with service := (d.service.watch now .stop).1, phase := .returned }

theorem proceeds (d : Shutdown) (now : Nat) :
  d.Proceeds now (d.proceed now)
  := by
  rw [proceed]
  split
  · next phase => apply Proceeds.close phase
  · next phase =>
      split
      · apply Proceeds.waits
      · next answered =>
          apply Proceeds.answered phase
          simpa using answered
  · next phase => apply Proceeds.stop phase
  · next phase =>
      split
      · next ended => apply Proceeds.join phase ended
      · apply Proceeds.waits
  · next phase =>
      split
      · split
        · next drained => apply Proceeds.halt phase drained
        · apply Proceeds.waits
      · next inbox => apply Proceeds.leave phase inbox
  · apply Proceeds.waits

/-- Nobody edits meanwhile, and nobody else starts or stops the bridge. -/
def Undisturbed (inputs : List (Nat × ShutdownInput)) : Prop :=
  ∀ input ∈ inputs, ∀ x, input.2 = .other x → x.meddles = false

end Shutdown

/-! ### Settings -/

namespace Autosave

/-- Without an edit, no timer is new. -/
theorem mem_timers_of_not_alters {a : Autosave} {x : AutosaveInput} {t : SaveTimer}
    (hx : ∀ name, ¬ x.Alters name) (ht : t ∈ (a.step x).1.timers) :
  t ∈ a.timers
  := by
  cases x with
  | edit now name field value => apply absurd rfl (hx name)
  | flush name =>
      simp only [step, timers_flush] at ht
      apply (List.mem_filter.mp ht).1
  | fire timer =>
      simp only [step] at ht
      split at ht
      · apply ht
      · rw [fire_timers] at ht
        apply (List.mem_filter.mp ht).1
  | answer save reply =>
      simp only [step] at ht
      split at ht
      · apply ht
      · rwa [timers_answer] at ht

/-- The sections with unsaved edits are in ascending order, and each is there once. -/
theorem Wired.pairwise_pendingNames {a : Autosave} (h : a.Wired) :
  a.pendingNames.Pairwise (· < ·)
  := by
  apply Table.ordered_filter _ h.ordered

/-- A section that is closed and has no draft any more is not sent. -/
theorem Wired.content?_of_flush_eq_none {a : Autosave} {name : String} (h : a.Wired)
    (hsent : (a.flush name).2 = none) :
  a.content? name = none
  := by
  cases hd : a.draft? name with
  | none =>
      rw [content?, hd]
      rfl
  | some d =>
      have hfields := h.written name d hd
      simp [Autosave.flush, hd, hfields] at hsent

/-- What is sent is the draft of its section. -/
theorem content?_of_sent {a : Autosave} {x : AutosaveInput} {v : Save}
    (hv : (a.step x).2.1 = some v) :
  a.content? v.name = some (v.fields, v.revision)
  := by
  obtain ⟨now, name, field, value, rfl⟩ | ⟨name, b, sent, hsend, heq, _⟩ | ⟨_, _, _, _, heq⟩ :=
    a.step_cases x
  · nomatch hv
  · rw [heq] at hv
    obtain ⟨_, hname, hcontent⟩ := hsend.save v hv
    rw [hname]
    apply hcontent
  · rw [heq] at hv
    nomatch hv

theorem mem_saves_of_confirms {a : Autosave} {x : AutosaveInput} {v : Save}
    (hv : v ∈ a.confirms x) :
  v ∈ a.saves
  := by
  cases x with
  | answer save reply =>
      obtain ⟨hfind, _⟩ := Option.filter_eq_some_iff.mp hv
      apply List.mem_of_find?_eq_some hfind
  | edit | flush | fire => nomatch hv

end Autosave

namespace Shutdown

/-- The drafts as they were have begun to settle, and every save carries one of them.  The sections
that are done have been sent, unless they had been saved beside the call by then; the timers that
are left are those of the others.  A save that is under way has been sent beside the call, or the
call is waiting for it. -/
structure Saves (s : Service) (d : Shutdown) : Prop where
  settles : s.bridge.autosave.Settles d.confirmed d.service.bridge.autosave
  whole : ∀ v ∈ d.sent ++ d.aside, s.bridge.autosave.content? v.name = some (v.fields, v.revision)
  known : ∀ v ∈ d.confirmed, v ∈ d.sent ++ d.aside
  underway : ∀ v ∈ d.service.bridge.autosave.saves,
    v ∈ d.aside ∨ v ∈ d.sent ∧ ∃ rest, d.phase = .saving v.id rest
  armed : ∀ t ∈ d.service.bridge.autosave.timers, t.name ∈ d.phase.rest
  inTurn : ∃ done, s.bridge.autosave.pendingNames = done ++ d.phase.rest
    ∧ (d.sent.map Save.name).Sublist done
    ∧ ∀ name ∈ done, name ∈ d.sent.map Save.name ∨ ∃ v ∈ d.aside, v ∈ d.confirmed ∧ v.name = name

variable {s : Service} {d e : Shutdown} {now : Nat} {x : ServiceInput}

theorem saves_ofService (h : s.bridge.autosave.Tidy) (hsaves : s.bridge.autosave.saves = []) :
  Saves s (ofService s)
  := by
  use h.settles hsaves
  · nofun
  · nofun
  · intro v hv
    rw [ofService, hsaves] at hv
    nomatch hv
  · intro t ht
    obtain ⟨draft, hdraft, _⟩ := h.known t ht
    apply h.toWired.mem_pendingNames_iff.mpr
    rw [hdraft]
    nofun
  · use [], rfl, List.nil_sublist []
    nofun

/-- What does not concern the settings leaves them as they are; the call may go on meanwhile, if it
is not waiting for a save that is under way. -/
theorem Saves.of_eq (h : Saves s d)
    (hautosave : e.service.bridge.autosave = d.service.bridge.autosave)
    (hconfirmed : e.confirmed = d.confirmed) (hsent : e.sent = d.sent) (haside : e.aside = d.aside)
    (hrest : e.phase.rest = d.phase.rest)
    (hwait : ∀ v ∈ d.service.bridge.autosave.saves, ∀ rest, d.phase = .saving v.id rest →
      ∃ rest, e.phase = .saving v.id rest) :
  Saves s e
  := by
  constructor
  · rw [hautosave, hconfirmed]
    apply h.settles
  · rw [hsent, haside]
    apply h.whole
  · rw [hsent, haside, hconfirmed]
    apply h.known
  · rw [hautosave, hsent, haside]
    intro v hv
    obtain hv' | ⟨hv', rest, hphase⟩ := h.underway v hv
    · left
      apply hv'
    · right
      use hv'
      apply hwait v hv rest hphase
  · rw [hautosave, hrest]
    apply h.armed
  · rw [hsent, haside, hconfirmed, hrest]
    apply h.inTurn

/-- A save is sent with the draft of its section as it was. -/
theorem Saves.content?_of_sent (h : Saves s d) {y : AutosaveInput} {v : Save}
    (hv : v ∈ (d.service.bridge.autosave.step y).2.1) :
  s.bridge.autosave.content? v.name = some (v.fields, v.revision)
  := by
  apply h.settles.content?_before
  apply Autosave.content?_of_sent hv

/-- A save that is confirmed has been sent. -/
theorem Saves.mem_of_confirms (h : Saves s d) {y : AutosaveInput} {v : Save}
    (hv : v ∈ d.service.bridge.autosave.confirms y) :
  v ∈ d.sent ++ d.aside
  := by
  obtain hv | ⟨hv, _⟩ := h.underway v (Autosave.mem_saves_of_confirms hv)
  · apply List.mem_append_right _ hv
  · apply List.mem_append_left _ hv

/-- Settings go on beside the call, and nobody edits. -/
theorem Saves.settings (h : Saves s d) {y : AutosaveInput} (hnot : ∀ name, ¬ y.Alters name) :
  Saves s (d.step now (.other (.settings y)))
  := by
  have hautosave := d.service.autosave_step now (.settings y)
  have hsends : d.service.sends (.settings y) = (d.service.bridge.autosave.step y).2.1 := rfl
  have hconfirms : d.service.confirms (.settings y) = d.service.bridge.autosave.confirms y := rfl
  constructor
  · simp only [step, goOn, hautosave, hconfirms]
    apply h.settles.step hnot
  · intro v hv
    simp only [step, goOn, hsends, ← List.append_assoc] at hv
    obtain hv | hv := List.mem_append.mp hv
    · apply h.whole v hv
    · apply h.content?_of_sent (Option.mem_toList.mp hv)
  · intro v hv
    simp only [step, goOn, hsends, hconfirms, ← List.append_assoc] at hv ⊢
    apply List.mem_append_left
    obtain hv | hv := List.mem_append.mp hv
    · apply h.known v hv
    · apply h.mem_of_confirms (Option.mem_toList.mp hv)
  · intro v hv
    simp only [step, goOn, hautosave, hsends] at hv ⊢
    obtain hv | hv := Autosave.mem_saves_or_sent hv
    · apply (h.underway v hv).imp_left (List.mem_append_left _)
    · left
      apply List.mem_append_right _ (Option.mem_toList.mpr hv)
  · intro t ht
    simp only [step, goOn, hautosave] at ht ⊢
    apply h.armed t (Autosave.mem_timers_of_not_alters hnot ht)
  · obtain ⟨done, hnames, hsublist, hdone⟩ := h.inTurn
    use done, hnames, hsublist
    intro name hname
    apply (hdone name hname).imp_right
    rintro ⟨v, haside, hconfirmed, hv⟩
    use v, List.mem_append_left _ haside, List.mem_append_left _ hconfirmed, hv

/-- Other parts go on beside the call. -/
theorem Saves.of_settings?_eq_none (h : Saves s d) (hnone : x.settings? = none) :
  Saves s (d.step now (.other x))
  := by
  have hautosave := d.service.autosave_step now x
  have hconfirms : d.service.confirms x = none := by
    rw [Service.confirms, hnone]
    rfl
  have hsends : d.service.sends x = none := by
    rw [Service.sends, hnone]
    rfl
  rw [hnone] at hautosave
  apply h.of_eq (e := d.step now (.other x)) hautosave
  · simp [step, goOn, hconfirms]
  · rfl
  · simp [step, hsends]
  · rfl
  · intro v _ rest hphase
    use rest
    apply hphase

/-- Whatever goes on beside the call, unless somebody edits or stops the bridge. -/
theorem Saves.other (h : Saves s d) (hx : x.meddles = false) :
  Saves s (d.step now (.other x))
  := by
  cases x with
  | settings y =>
      apply h.settings
      intro name
      cases y with
      | edit => nomatch hx
      | flush | fire | answer => exact id
  | start | halt | channel | submit | take | pass | beat | tick | order | reply =>
      apply h.of_settings?_eq_none rfl

/-- A section that has no draft any more has been saved. -/
theorem Saves.exists_confirmed (h : Saves s d) (hwired : s.bridge.autosave.Wired) {name : String}
    (hname : name ∈ s.bridge.autosave.pendingNames)
    (hsent : (d.service.bridge.autosave.flush name).2 = none) :
  ∃ v ∈ d.confirmed, v.name = name
  := by
  have hcontent := h.settles.content name
  rw [h.settles.toWired.content?_of_flush_eq_none hsent] at hcontent
  split at hcontent
  · next hconfirmed => apply hconfirmed
  · apply absurd _ (hwired.mem_pendingNames_iff.mp hname)
    apply Option.map_eq_none_iff.mp hcontent.symm

theorem Saves.sent_or_saved (h : Saves s d) (hwired : s.bridge.autosave.Wired) {name : String}
    (hname : name ∈ s.bridge.autosave.pendingNames)
    (hsent : (d.service.bridge.autosave.flush name).2 = none) :
  name ∈ d.sent.map Save.name ∨ ∃ v ∈ d.aside, v ∈ d.confirmed ∧ v.name = name
  := by
  obtain ⟨v, hv, heq⟩ := h.exists_confirmed hwired hname hsent
  obtain hsent | haside := List.mem_append.mp (h.known v hv)
  · left
    apply List.mem_map.mpr
    use v
  · right
    use v

/-- The next section is done: it has been sent, or saved beside the call. -/
theorem Saves.inTurn_close (h : Saves s d) (hwired : s.bridge.autosave.Wired) {name : String}
    {rest : List String} (hphase : d.phase = .closing (name :: rest)) {sent : Option Save}
    (hsent : (d.service.bridge.autosave.flush name).2 = sent) :
  ∃ done, s.bridge.autosave.pendingNames = done ++ rest
    ∧ ((d.sent ++ sent.toList).map Save.name).Sublist done
    ∧ ∀ other ∈ done, other ∈ (d.sent ++ sent.toList).map Save.name
      ∨ ∃ v ∈ d.aside, v ∈ d.confirmed ∧ v.name = other
  := by
  have hname (v : Save) (hv : v ∈ sent) : v.name = name :=
    ((d.service.bridge.autosave.sends_flush name).save v (hsent.trans hv)).2.1
  obtain ⟨done, hnames, hsublist, hdone⟩ := h.inTurn
  use done ++ [name]
  rw [List.map_append]
  constructor
  · rw [hnames, hphase, List.append_assoc]
    rfl
  constructor
  · apply hsublist.append
    cases sent with
    | none => apply List.nil_sublist
    | some v => rw [Option.toList_some, List.map_singleton, hname v rfl]
  · intro other hother
    obtain hother | hother := List.mem_append.mp hother
    · apply (hdone other hother).imp_left (List.mem_append_left _)
    · rw [List.mem_singleton.mp hother]
      cases sent with
      | some v =>
          left
          apply List.mem_append_right
          rw [Option.toList_some, List.map_singleton, hname v rfl]
          apply List.mem_singleton_self
      | none =>
          have hmem : name ∈ s.bridge.autosave.pendingNames := by
            rw [hnames, hphase]
            apply List.mem_append_right _ List.mem_cons_self
          apply (h.sent_or_saved hwired hmem hsent).imp_left (List.mem_append_left _)

/-- The next section is sent, unless it has been saved beside the call. -/
theorem Saves.close (h : Saves s d) (hwired : s.bridge.autosave.Wired) {name : String}
    {rest : List String} (hphase : d.phase = .closing (name :: rest)) :
  Saves s
    { d.goOn now (.settings (.flush name)) with
      phase := .ofSent (d.service.sends (.settings (.flush name))) rest
      sent := d.sent ++ (d.service.sends (.settings (.flush name))).toList }
  := by
  have hautosave := d.service.autosave_step now (.settings (.flush name))
  obtain ⟨sent, hsent⟩ : ∃ sent, (d.service.bridge.autosave.flush name).2 = sent := ⟨_, rfl⟩
  have hsends : d.service.sends (.settings (.flush name)) = sent := hsent
  rw [hsends]
  have hconfirmed : (d.goOn now (.settings (.flush name))).confirmed = d.confirmed :=
    List.append_nil _
  have hrest : (StopPhase.ofSent sent rest).rest = rest := by cases sent <;> rfl
  constructor
  · rw [hconfirmed]
    simp only [goOn, hautosave]
    have hsettles := h.settles.step (x := .flush name) fun _ => id
    rw [Autosave.confirms, Option.toList_none, List.append_nil] at hsettles
    apply hsettles
  · intro v hv
    rw [List.append_assoc] at hv
    obtain hv | hv := List.mem_append.mp hv
    · apply h.whole v (List.mem_append_left _ hv)
    · obtain hv | hv := List.mem_append.mp hv
      · apply h.content?_of_sent (y := .flush name) (hsent.trans (Option.mem_toList.mp hv))
      · apply h.whole v (List.mem_append_right _ hv)
  · rw [hconfirmed]
    intro v hv
    rw [List.append_assoc]
    obtain hv | hv := List.mem_append.mp (h.known v hv)
    · apply List.mem_append_left _ hv
    · apply List.mem_append_right _ (List.mem_append_right _ hv)
  · intro v hv
    simp only [goOn, hautosave] at hv
    obtain hv | hv := Autosave.mem_saves_or_sent (x := .flush name) hv
    · left
      obtain hv | ⟨_, _, hwait⟩ := h.underway v hv
      · apply hv
      · rw [hphase] at hwait
        cases hwait
    · right
      obtain rfl : sent = some v := hsent.symm.trans hv
      exact ⟨List.mem_append_right _ (List.mem_singleton_self v), rest, rfl⟩
  · rw [hrest]
    intro t ht
    simp only [goOn, hautosave, ServiceInput.settings?, Autosave.step, Autosave.timers_flush] at ht
    have hmem := h.armed t (List.mem_filter.mp ht).1
    rw [hphase] at hmem
    apply (List.mem_cons.mp hmem).resolve_left (h.settles.known.not_mem_filter ht)
  · rw [hconfirmed, hrest]
    apply h.inTurn_close hwired hphase hsent

/-- The call goes on. -/
theorem Saves.proceed (h : Saves s d) (hwired : s.bridge.autosave.Wired)
    (hproceeds : d.Proceeds now e) :
  Saves s e
  := by
  cases hproceeds with
  | waits => apply h
  | close phase => apply h.close hwired phase
  | answered phase answered =>
      refine h.of_eq rfl rfl rfl rfl ?_ ?_
      · rw [phase]
        rfl
      · rw [phase]
        intro v hv _ heq
        apply absurd (StopPhase.saving.inj heq).1.symm (answered v hv)
  | stop phase =>
      refine h.of_eq ?_ (List.append_nil _) rfl rfl ?_ ?_
      · apply d.service.autosave_step now (.channel .stop)
      · rw [phase]
        cases d.service.bridge.channel.awaited? <;> rfl
      · rw [phase]
        nofun
  | @join id phase ended =>
      refine h.of_eq ?_ (List.append_nil _) rfl rfl ?_ ?_
      · apply d.service.autosave_step now (.channel (.finish id))
      · rw [phase]
        rfl
      · rw [phase]
        nofun
  | halt phase drained =>
      refine h.of_eq ?_ (List.append_nil _) rfl rfl ?_ ?_
      · apply d.service.autosave_step now .halt
      · rw [phase]
        rfl
      · rw [phase]
        nofun
  | leave phase inbox =>
      refine h.of_eq rfl rfl rfl rfl ?_ ?_
      · rw [phase]
        rfl
      · rw [phase]
        nofun

end Shutdown

end Greenhouse
