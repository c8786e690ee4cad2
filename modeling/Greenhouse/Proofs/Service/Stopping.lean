import Greenhouse.Proofs.Console.Books
import Greenhouse.Proofs.Service.Joining
import Greenhouse.Proofs.Service.Silence

/-!
# Stopping a bridge on a stage

On a stage, `stop` runs until its end: while it waits for the reply to a save, the timers run down
and the other replies arrive that are due by then, and while it waits for its supervisor, the
channel and its other end go on by themselves.  Nobody edits, starts the bridge or stops it once
more meanwhile.  So what the stage does is one of the runs of a `Shutdown` that nobody disturbs
(`Shutdown.attains_stop`), and what holds of all of these holds of the stage
(`Shutdown.saved_of_stop`).

The saves whose replies are awaited on a stage are under way (`Books.Exact`), so every reply that
arrives is the answer to one.  The supervisor for which the call waits is the only one whose end
anybody awaits (`Shutdown.Waits.finish`), so the step that ends a waiting call is its own.  It has
ended when the stage has come to rest (`Stage.stopping_pump_stop`), so the call returns.

The stage must be one on which nobody waits (`Stage.Idle`).  So is one that has been set up, and it
remains so when the bridge is started, when sections are edited, and while the channel and its other
end go on.
-/

namespace Greenhouse

namespace Rehearsal

namespace Stage

variable {s t u : Stage}

/-! ### Parts that go on -/

/-- The bridge of one stage becomes that of another while nobody edits, starts it or stops it. -/
def Follows (s t : Stage) : Prop :=
  ∃ inputs : List (Nat × ServiceInput), (∀ input ∈ inputs, input.2.meddles = false)
    ∧ ((Service.ofBridge s.bridge).run inputs).1 = Service.ofBridge t.bridge

theorem Follows.of_eq (h : t.bridge = s.bridge) :
  s.Follows t
  := by
  use []
  rw [h]
  constructor
  · rintro _ ⟨⟩
  · rfl

theorem Follows.trans (h : s.Follows t) (h' : t.Follows u) :
  s.Follows u
  := by
  obtain ⟨inputs, hinputs, hrun⟩ := h
  obtain ⟨more, hmore, hrun'⟩ := h'
  use inputs ++ more
  constructor
  · intro input hinput
    obtain hinput | hinput := List.mem_append.mp hinput
    · apply hinputs input hinput
    · apply hmore input hinput
  · rw [Service.run_append, hrun, hrun']

theorem Follows.of_step (now : Nat) {x : ServiceInput} (hx : x.meddles = false)
    (h : ((Service.ofBridge s.bridge).step now x).1 = Service.ofBridge t.bridge) :
  s.Follows t
  := by
  use [(now, x)]
  constructor
  · simpa using hx
  · rw [Service.run_cons, h]
    rfl

theorem drive_follows (s : Stage) {x : ChannelInput}
    (hx : (ServiceInput.channel x).meddles = false) :
  s.Follows (s.drive x)
  := by
  apply Follows.of_step s.now hx
  rw [bridge_drive]
  rfl

end Stage

/-! ### Saves under way -/

/-- Every save whose answer is awaited is under way, and is awaited once. -/
structure Books.Exact (b : Books) : Prop where
  numbered : b.autosave.Numbered
  underWay : ∀ v ∈ b.underWay, v ∈ b.autosave.saves
  distinct : (b.underWay.map Save.id).Nodup

namespace Books

variable {b : Books} {a : Autosave} {name : String} {save : Save} {saves : List Save}
  {calls : List Request}

theorem Exact.answer (h : b.Exact) (outcome : Except SaveError String)
    (hsaves : saves.Sublist b.underWay) (hothers : ∀ v ∈ saves, v.id ≠ save.id) :
  Exact ⟨(b.autosave.answer save outcome).1, saves, calls⟩
  := by
  constructor
  · apply h.numbered.answer
  · intro v hv
    rw [Autosave.saves_answer]
    apply List.mem_filter.mpr
    use h.underWay v (hsaves.subset hv)
    simpa using hothers v hv
  · apply h.distinct.sublist (hsaves.map _)

theorem Exact.send (h : b.Exact) (hsends : b.autosave.Sends name a (some save))
    (htimers : a.timers.Sublist b.autosave.timers) :
  Exact ⟨a, save :: b.underWay, calls⟩
  := by
  have hsaves : a.saves = b.autosave.saves ++ [save] := hsends.saves
  constructor
  · apply h.numbered.send hsends htimers
  · intro v hv
    rw [hsaves]
    obtain rfl | hv := List.mem_cons.mp hv
    · apply List.mem_append_right _ (List.mem_singleton_self v)
    · apply List.mem_append_left _ (h.underWay v hv)
  · apply List.nodup_cons.mpr
    refine ⟨?_, h.distinct⟩
    intro hmem
    obtain ⟨v, hv, heq⟩ := List.mem_map.mp hmem
    have hlt := h.numbered.savesFresh v (h.underWay v hv)
    rw [heq, (hsends.save save rfl).1] at hlt
    apply Nat.lt_irrefl _ hlt

theorem Exact.still (h : b.Exact) (hsends : b.autosave.Sends name a none)
    (htimers : a.timers.Sublist b.autosave.timers) :
  Exact ⟨a, b.underWay, calls⟩
  := by
  have hsaves : a.saves = b.autosave.saves := hsends.saves.trans (List.append_nil _)
  constructor
  · apply h.numbered.send hsends htimers
  · rw [hsaves]
    apply h.underWay
  · apply h.distinct

end Books

namespace Stage

variable {s t : Stage} {hand : List Save} {save : Save}

theorem finishSave_follows (hnumbered : s.bridge.autosave.Numbered)
    (hsave : save ∈ s.bridge.autosave.saves) (reply : Reply) :
  s.Follows (s.finishSave save reply).1
  := by
  have hfind := Autosave.find?_of_nodup_ids hnumbered.saves hsave
  apply Follows.of_step s.now (x := .settings (.answer save.id
    (reply.read SettingsResponse.shape.reader))) rfl
  rw [finishSave, bridge_perform]
  simp only [Service.step, Service.ofBridge, Autosave.step, hfind, Bridge.saved]

/-- The reply to a save arrives, and the answers to the others are still awaited. -/
theorem finishSave_exact {b : Books} (h : b.Exact) (hautosave : b.autosave = s.bridge.autosave)
    (hsaves : (hand ++ s.flights.map Flight.save).Sublist b.underWay)
    (hothers : ∀ v ∈ hand ++ s.flights.map Flight.save, v.id ≠ save.id) (reply : Reply) :
  ((s.finishSave save reply).1.books hand).Exact
  := by
  obtain ⟨outcome, heq⟩ := s.books_finishSave save reply hand
  rw [heq, ← hautosave]
  apply h.answer outcome hsaves hothers

/-- The reply to a save in hand arrives. -/
theorem finishSave_exact_of_hand (h : (s.books (save :: hand)).Exact) (reply : Reply) :
  ((s.finishSave save reply).1.books hand).Exact
  := by
  apply finishSave_exact h rfl (List.sublist_cons_self _ _)
  intro v hv heq
  apply (List.nodup_cons.mp h.distinct).1
  rw [← heq]
  apply List.mem_map_of_mem hv

/-- A save in hand is sent, and nobody waits for the reply. -/
theorem launch_follows (h : (s.books (save :: hand)).Exact) :
  s.Follows (s.launch save) ∧ ((s.launch save).books hand).Exact
  := by
  obtain ⟨hbridge, hflights, hcalls⟩ := s.ask_fst (.saveSettings save.request)
  unfold launch
  generalize s.ask (.saveSettings save.request) = asked at hbridge hflights hcalls
  obtain ⟨asker, delay, reply⟩ := asked
  simp only at hbridge hflights hcalls ⊢
  have hexact : (asker.books (save :: hand)).Exact := by
    rw [books, hbridge, hflights]
    exact ⟨h.numbered, h.underWay, h.distinct⟩
  split
  · constructor
    · apply Follows.trans (Follows.of_eq hbridge)
      apply finishSave_follows hexact.numbered (hexact.underWay save List.mem_cons_self)
    · apply finishSave_exact_of_hand hexact
  · constructor
    · apply Follows.of_eq hbridge
    · let flight : Flight := ⟨asker.now + delay, save, reply⟩
      have hperm : (hand ++ (asker.flights ++ [flight]).map Flight.save).Perm
          (save :: (hand ++ asker.flights.map Flight.save)) := by
        rw [List.map_append, ← List.append_assoc]
        apply List.perm_append_singleton
      constructor
      · apply hexact.numbered
      · intro v hv
        apply hexact.underWay v (hperm.subset hv)
      · apply (hperm.map Save.id).nodup_iff.mpr hexact.distinct

theorem mem_timers_of_agenda {due id : Nat} {timer : SaveTimer}
    (h : (due, id, .timer timer) ∈ s.agenda) :
  timer ∈ s.bridge.autosave.timers
  := by
  simp only [agenda, List.mem_append, List.mem_map] at h
  obtain (⟨other, hother, heq⟩ | ⟨_, _, heq⟩) | h := h
  · obtain rfl := Happening.timer.inj (Prod.ext_iff.mp (Prod.ext_iff.mp heq).2).2
    apply hother
  · cases heq
  · split at h
    · cases List.mem_singleton.mp h
    · cases h

theorem happen_follows (hexact : (s.books hand).Exact) {due id : Nat} {h : Happening}
    (hmem : (due, id, h) ∈ s.agenda) :
  s.Follows (s.happen h) ∧ ((s.happen h).books hand).Exact
  := by
  cases h with
  | timer timer =>
      have hfind : (s.bridge.autosave.timers.find? fun t => t.id = timer.id) = some timer :=
        Autosave.find?_of_nodup_ids hexact.numbered.timers (mem_timers_of_agenda hmem)
      have hsends := s.bridge.autosave.sends_fire timer
      have htimers : (s.bridge.autosave.fire timer).1.timers.Sublist s.bridge.autosave.timers := by
        rw [Autosave.fire_timers]
        apply List.filter_sublist
      have hfires : s.Follows { s with bridge := (s.bridge.fire timer).1 } := by
        apply Follows.of_step s.now (x := .settings (.fire timer.id)) rfl
        simp only [Service.step, Service.ofBridge, Autosave.step, hfind, Bridge.fire]
      simp only [happen, Bridge.fire]
      cases hsave : (s.bridge.autosave.fire timer).2 with
      | none =>
          rw [hsave] at hsends
          use hfires
          apply hexact.still hsends htimers
      | some save =>
          rw [hsave] at hsends
          have hsent : ({ s with bridge := (s.bridge.fire timer).1 }.books (save :: hand)).Exact :=
            hexact.send hsends htimers
          obtain ⟨hfollows, hlaunched⟩ := launch_follows hsent
          use hfires.trans hfollows
          apply hlaunched
  | reply flight =>
      have hflight := mem_flights_of_agenda hmem
      have hsave : flight.save ∈ hand ++ s.flights.map Flight.save := by
        apply List.mem_append_right
        apply List.mem_map_of_mem hflight
      let rest := s.flights.filter fun f => f.save.id != flight.save.id
      have hfinish : { s with flights := rest }.Follows
          ({ s with flights := rest }.finishSave flight.save flight.reply).1 :=
        finishSave_follows (s := { s with flights := rest }) hexact.numbered
          (hexact.underWay _ hsave) flight.reply
      use (Follows.of_eq rfl).trans hfinish
      apply finishSave_exact (s := { s with flights := rest }) hexact rfl
      · apply (List.Sublist.refl hand).append
        apply List.filter_sublist.map
      · intro v hv heq
        obtain hv | hv := List.mem_append.mp hv
        · have hdistinct := hexact.distinct
          rw [books, List.map_append] at hdistinct
          apply (List.nodup_append.mp hdistinct).2.2 v.id (List.mem_map_of_mem hv) flight.save.id
          · apply List.mem_map_of_mem (List.mem_map_of_mem hflight)
          · apply heq
        · obtain ⟨f, hf, rfl⟩ := List.mem_map.mp hv
          simpa [heq] using (List.mem_filter.mp hf).2
  | window =>
      constructor
      · apply Follows.of_step s.now (x := .tick) rfl
        simp only [happen, bridge_perform]
        rfl
      · simp only [happen, books_perform]
        exact ⟨hexact.numbered, hexact.underWay, hexact.distinct⟩

theorem passFor_follows (fuel moment : Nat) (hexact : (s.books hand).Exact) :
  s.Follows (passFor fuel moment s) ∧ ((passFor fuel moment s).books hand).Exact
  := by
  induction fuel generalizing s with
  | zero => exact ⟨.of_eq rfl, hexact⟩
  | succ fuel ih =>
      rw [passFor]
      split
      · next due id h hfirst =>
          split
          · obtain ⟨hfollows, hexact⟩ :=
              happen_follows (s := { s with now := max s.now due }) hexact (first?_mem hfirst)
            obtain ⟨hrest, hexact⟩ := ih hexact
            exact ⟨((Follows.of_eq rfl).trans hfollows).trans hrest, hexact⟩
          · exact ⟨.of_eq rfl, hexact⟩
      · exact ⟨.of_eq rfl, hexact⟩

/-- Somebody waits for the reply to a request, and other parts of the bridge go on meanwhile. -/
theorem replyTo_follows (r : Request) (hexact : (s.books hand).Exact) :
  s.Follows (s.replyTo r).1 ∧ ((s.replyTo r).1.books hand).Exact
  := by
  have hask : ((s.ask r).1.books hand).Exact := by
    rw [books_ask]
    exact ⟨hexact.numbered, hexact.underWay, hexact.distinct⟩
  obtain ⟨hfollows, hexact⟩ := passFor_follows _ ((s.ask r).1.now + (s.ask r).2.1) hask
  constructor
  · apply Follows.trans (Follows.of_eq (s.ask_fst r).1)
    apply hfollows.trans (Follows.of_eq rfl)
  · apply hexact

/-- Nobody waits on a stage: no save is under way, and no call of `stop`. -/
structure Idle (s : Stage) : Prop where
  tidy : s.bridge.autosave.Tidy
  saves : s.bridge.autosave.saves = []
  flights : s.flights = []
  sound : s.bridge.channel.Sound
  stopping : s.bridge.channel.stopping = []
  parked : (Service.ofBridge s.bridge).Parked

/-! ### Stages on which nobody waits -/

theorem idle_ofBridge (debounce window delay capacity : Nat) (desk : Desk) (door : Door) :
  (ofBridge (.unstarted debounce window delay) capacity desk door).Idle
  := by
  constructor
  · apply Autosave.tidy_ofDebounce
  · rfl
  · rfl
  · apply Channel.sound_ofDelay
  · rfl
  · exact fun _ => ⟨rfl, rfl⟩

theorem Idle.of_books (h : s.Idle) (hbooks : t.books [] = s.books []) :
  t.bridge.autosave.Tidy ∧ t.bridge.autosave.saves = [] ∧ t.flights = []
  := by
  have hautosave : t.bridge.autosave = s.bridge.autosave := congrArg Books.autosave hbooks
  have hflights : t.flights.map Flight.save = s.flights.map Flight.save :=
    congrArg Books.underWay hbooks
  rw [hautosave]
  use h.tidy, h.saves
  rw [h.flights] at hflights
  apply List.map_eq_nil_iff.mp hflights

/-- Nobody waits after an input by which no section is sent and that is no call of `stop`. -/
theorem Idle.step (h : s.Idle) (now : Nat) {x : ServiceInput}
    (hstep : ((Service.ofBridge s.bridge).step now x).1 = Service.ofBridge t.bridge)
    (hx : (Service.ofBridge s.bridge).channelInput? x ≠ some .stop)
    (hsettings : t.bridge.autosave.Tidy ∧ t.bridge.autosave.saves = [] ∧ t.flights = []) :
  t.Idle
  := by
  obtain ⟨htidy, hsaves, hflights⟩ := hsettings
  have hchannel := (Service.ofBridge s.bridge).channel_step now x
  have hparked := h.parked.step now x
  rw [hstep] at hchannel hparked
  have hkeeps : t.bridge.channel.Sound ∧ t.bridge.channel.stopping = [] := by
    rw [show t.bridge.channel = _ from hchannel]
    split
    · next y hy =>
        have hmove := s.bridge.channel.move_step now y
        use h.sound.move hmove
        apply List.eq_nil_iff_forall_not_mem.mpr
        intro id hid
        have hbefore := (hmove.current_or_fresh (fun hstop => hx (hstop ▸ hy))).1 id hid
        rw [h.stopping] at hbefore
        cases hbefore
    · exact ⟨h.sound, h.stopping⟩
  exact ⟨htidy, hsaves, hflights, hkeeps.1, hkeeps.2, hparked⟩

theorem Idle.start (h : s.Idle) :
  s.start.Idle
  := by
  apply h.step s.now (x := .start)
  · rw [Stage.start, bridge_absorbAll]
    rfl
  · rw [Service.channelInput?]
    split <;> simp
  · apply h.of_books
    apply (books_absorbAll _ _ _).trans
    exact books_with_bridge s (autosave_start s.bridge s.now) []

theorem Idle.edit (h : s.Idle) (name field : String) (value : Json) :
  (s.edit name field value).Idle
  := by
  apply h.step s.now (x := .settings (.edit s.now name field value)) rfl nofun
  use h.tidy.edit s.now name field value
  constructor
  · rw [← h.saves]
    apply Autosave.saves_edit
  · exact h.flights

theorem Idle.drive (h : s.Idle) {x : ChannelInput} (hx : x ≠ .stop) :
  (s.drive x).Idle
  := by
  apply h.step s.now (x := .channel x)
  · rw [bridge_drive]
    rfl
  · exact fun heq => hx (Option.some.inj heq)
  · exact h.of_books (books_drive s x [])

theorem Idle.pump (h : s.Idle) :
  s.pump.Idle
  := by
  apply pumpFor_induction _ _ _ h
  · exact fun t mail h => ⟨h.tidy, h.saves, h.flights, h.sound, h.stopping, h.parked⟩
  · intro t id m h
    obtain ⟨htidy, hsaves, hflights⟩ := h.of_books (books_tell t id m [])
    use htidy, hsaves, hflights
    all_goals rw [bridge_tell]
    · exact h.sound
    · exact h.stopping
    · exact h.parked
  · exact fun t x _ hstop h => h.drive hstop

end Stage

end Rehearsal

/-! ### The call -/

namespace Shutdown

open Rehearsal

/-- A call of `stop` that nobody disturbs can come to a phase with the bridge of a stage. -/
def Attains (d : Shutdown) (p : StopPhase) (s : Stage) : Prop :=
  ∃ inputs, Undisturbed inputs ∧ (d.run inputs).phase = p
    ∧ (d.run inputs).service = Service.ofBridge s.bridge

variable {d : Shutdown} {p q : StopPhase} {s t : Stage}

theorem Attains.follows (h : d.Attains p s) (hfollows : s.Follows t) :
  d.Attains p t
  := by
  obtain ⟨inputs, hinputs, hphase, hservice⟩ := h
  obtain ⟨more, hmore, hrun⟩ := hfollows
  obtain ⟨hservice', hphase'⟩ := (d.run inputs).run_beside more
  use inputs ++ beside more, undisturbed_append hinputs (undisturbed_beside hmore)
  rw [run_append]
  constructor
  · rw [hphase', hphase]
  · rw [hservice', hservice, hrun]

theorem Attains.proceed (h : d.Attains p s) (now : Nat)
    (hproceed : ∀ e : Shutdown, e.phase = p → e.service = Service.ofBridge s.bridge →
      (e.proceed now).phase = q ∧ (e.proceed now).service = Service.ofBridge t.bridge) :
  d.Attains q t
  := by
  obtain ⟨inputs, hinputs, hphase, hservice⟩ := h
  use inputs ++ [(now, .proceed)], undisturbed_append hinputs (undisturbed_proceed now)
  rw [run_append_singleton]
  apply hproceed _ hphase hservice

/-- The reply to the save that is awaited arrives. -/
theorem Attains.answered {save : Save} {rest : List String} (h : d.Attains (.saving save.id rest) s)
    (hexact : (s.books [save]).Exact) (reply : Reply) :
  d.Attains (.closing rest) (s.finishSave save reply).1
  := by
  have hmem : save ∈ s.bridge.autosave.saves := hexact.underWay save List.mem_cons_self
  have hfinish := Stage.finishSave_follows hexact.numbered hmem reply
  apply (h.follows hfinish).proceed s.now
  intro e hphase hservice
  have hanswered : e.service.bridge.autosave.saves.any (fun v => v.id = save.id) = false := by
    obtain ⟨outcome, heq⟩ := s.books_finishSave save reply []
    have hautosave : (s.finishSave save reply).1.bridge.autosave
        = (s.bridge.autosave.answer save outcome).1 := congrArg Books.autosave heq
    rw [hservice]
    apply List.any_eq_false.mpr
    intro v hv
    simp only [Service.ofBridge, hautosave, Autosave.saves_answer] at hv
    simpa using (List.mem_filter.mp hv).2
  simp only [Shutdown.proceed, hphase, hanswered]
  use rfl, hservice

/-- A section is closed on the stage. -/
theorem Attains.close {name : String} {rest : List String}
    (h : d.Attains (.closing (name :: rest)) s) (hexact : (s.books []).Exact) :
  d.Attains (.closing rest) (s.close name).1 ∧ ((s.close name).1.books []).Exact
  := by
  let flushed : Stage := { s with bridge := (s.bridge.flush name).1 }
  have hsends := s.bridge.autosave.sends_flush name
  have htimers : (s.bridge.autosave.flush name).1.timers.Sublist s.bridge.autosave.timers := by
    rw [Autosave.timers_flush]
    apply List.filter_sublist
  have hflush : d.Attains (.ofSent (s.bridge.autosave.flush name).2 rest) flushed := by
    apply h.proceed s.now
    intro e hphase hservice
    simp only [Shutdown.proceed, hphase, goOn, hservice]
    exact ⟨rfl, rfl⟩
  cases hsave : (s.bridge.autosave.flush name).2 with
  | none =>
      rw [hsave] at hsends hflush
      have hclose : (s.close name).1 = flushed := by
        simp only [Stage.close, Bridge.flush, hsave]
        rfl
      rw [hclose]
      use hflush
      apply hexact.still hsends htimers
  | some save =>
      rw [hsave] at hsends hflush
      have hsent : (flushed.books [save]).Exact := hexact.send hsends htimers
      obtain ⟨hwaits, hawaited⟩ := Stage.replyTo_follows (.saveSettings save.request) hsent
      have hclose : (s.close name).1 = ((flushed.replyTo (.saveSettings save.request)).1.finishSave
          save (flushed.replyTo (.saveSettings save.request)).2).1 := by
        simp only [Stage.close, Bridge.flush, hsave]
        rfl
      rw [hclose]
      use (hflush.follows hwaits).answered hawaited _
      apply Stage.finishSave_exact_of_hand hawaited

/-- All sections with unsaved edits are closed on the stage. -/
theorem Attains.closeEach {names : List String} (h : d.Attains (.closing names) s)
    (hexact : (s.books []).Exact) :
  d.Attains (.closing []) (s.closeEach names).1
  := by
  induction names generalizing s with
  | nil => apply h
  | cons name names ih =>
      obtain ⟨hclosed, hexact⟩ := h.close hexact
      apply ih hclosed hexact

theorem Attains.stop (h : d.Attains (.closing []) s) :
  d.Attains (.ofAwaited s.bridge.channel.awaited?) (s.drive .stop)
  := by
  apply h.proceed s.now
  intro e hphase hservice
  simp only [Shutdown.proceed, hphase, hservice, goOn, Stage.bridge_drive]
  constructor <;> rfl

/-- The call waits for a supervisor or for the router. -/
def Waits (d : Shutdown) (s : Stage) : Prop :=
  d.Attains .routing s ∨ ∃ id, d.Attains (.joining id) s

theorem Waits.follows (h : d.Waits s) (hfollows : s.Follows t) :
  d.Waits t
  := by
  obtain h | ⟨id, h⟩ := h
  · left
    apply h.follows hfollows
  · right
    use id
    apply h.follows hfollows

variable {o : Stage}

/-- A call that has come to a phase on a stage goes on as it should. -/
theorem Attains.inOrder (ho : o.Idle) (h : (ofService (.ofBridge o.bridge)).Attains p s) :
  ∃ d, InOrder (.ofBridge o.bridge) d ∧ d.phase = p ∧ d.service = .ofBridge s.bridge
  := by
  obtain ⟨inputs, hinputs, hphase, hservice⟩ := h
  have horder := inOrder_run ho.tidy ho.saves ho.sound ho.stopping ho.parked hinputs
  exact ⟨_, horder, hphase, hservice⟩

theorem Attains.obeys (ho : o.Idle) (h : (ofService (.ofBridge o.bridge)).Attains p s) :
  s.bridge.channel.Obeys p
  := by
  obtain ⟨d, horder, hphase, hservice⟩ := h.inOrder ho
  have hobeys := horder.obeys
  rw [hphase, hservice] at hobeys
  apply hobeys

/-- Nobody waits for a supervisor while sections are closed. -/
theorem Attains.rests {names : List String} (ho : o.Idle)
    (h : (ofService (.ofBridge o.bridge)).Attains (.closing names) s) :
  s.bridge.channel.Sound ∧ s.bridge.channel.stopping = []
  := by
  obtain ⟨d, horder, hphase, hservice⟩ := h.inOrder ho
  have hsound := horder.sound
  have hobeys := horder.obeys
  rw [hservice] at hsound hobeys
  rw [hphase] at hobeys
  exact ⟨hsound, hobeys⟩

/-- The only supervisor that a call can wait for is its own. -/
theorem Waits.finish (ho : o.Idle) (h : (ofService (.ofBridge o.bridge)).Waits s) (id : Nat) :
  (ofService (.ofBridge o.bridge)).Waits (s.drive (.finish id))
  := by
  by_cases hjoins : s.bridge.channel.stopping.contains id ∧ s.bridge.channel.phase id = .ended
  · left
    obtain h | ⟨other, h⟩ := h
    · have hstopping : s.bridge.channel.stopping = [] :=
        (List.append_eq_nil_iff.mp (h.obeys ho).2).2
      simp [hstopping] at hjoins
    · obtain ⟨_, _, hstopping⟩ := h.obeys ho
      obtain rfl : id = other := by simpa [hstopping] using hjoins.1
      apply h.proceed s.now
      intro e hphase hservice
      have hended : (Service.ofBridge s.bridge).bridge.channel.phase id = .ended := hjoins.2
      simp only [Shutdown.proceed, hphase, hended, if_true, goOn, hservice, Stage.bridge_drive]
      use trivial
      rfl
  · apply h.follows
    apply Stage.Follows.of_eq
    rw [Stage.bridge_drive]
    simp only [Bridge.drive, Channel.step, hjoins, if_false]
    simp [Bridge.hear, Bridge.absorbAll]

theorem Waits.pumpFor (ho : o.Idle) (fuel : Nat)
    (h : (ofService (.ofBridge o.bridge)).Waits s) :
  (ofService (.ofBridge o.bridge)).Waits (Stage.pumpFor fuel s)
  := by
  apply Stage.pumpFor_induction _ _ _ h
  · intro t mail h
    apply h.follows (Stage.Follows.of_eq rfl)
  · intro t id m h
    apply h.follows (Stage.Follows.of_eq (Stage.bridge_tell t id m))
  · intro t x hconnect hstop h
    cases x with
    | connect | stop => contradiction
    | finish id => apply h.finish ho
    | send | start | dialed | noticed | take | written | received | ignored | lost | closed | called
      | elapsed => exact h.follows (Stage.drive_follows t rfl)

/-- The router takes what is waiting, and ends. -/
theorem Attains.endRouting (h : d.Attains .routing s) :
  d.Attains .returned { s with bridge := (s.bridge.endRouting s.now).1 }
  := by
  cases hinbox : s.bridge.inbox with
  | none =>
      apply h.proceed s.now
      intro e hphase hservice
      simp only [Shutdown.proceed, hphase, hservice, Service.ofBridge, hinbox, Bridge.endRouting,
        Bridge.catchUp, Option.map_none, Option.getD_none, Bridge.routeAll, Service.watch]
      simp
  | some inbox =>
      have hrun := Service.run_routing (s := Service.ofBridge s.bridge) s.now rfl rfl hinbox
      have hdrained := Service.drained_run_routing (s := Service.ofBridge s.bridge) s.now rfl hinbox
      rw [hrun] at hdrained
      have hroutes : s.Follows { s with bridge := (s.bridge.catchUp s.now).1 } := by
        use Service.routing s.now inbox
        constructor
        · intro input hinput
          apply meddles_of_routing hinput
        · rw [hrun]
          rfl
      apply (h.follows hroutes).proceed s.now
      intro e hphase hservice
      have hended : e.service.isDrained = true := by
        rw [hservice]
        apply hdrained
      have hinbox : e.service.bridge.inbox = some [] := (Service.isDrained_iff _).mp hended |>.2
      simp only [Shutdown.proceed, hphase, hinbox, hended, if_true, goOn, Service.step]
      simp only [hservice]
      use trivial
      rfl

/-- `stop` on a stage is a call that nobody disturbs, and it returns. -/
theorem attains_stop (h : s.Idle) :
  (ofService (.ofBridge s.bridge)).Attains .returned s.stop
  := by
  have hbegins : (ofService (.ofBridge s.bridge)).Attains
      (.closing s.bridge.autosave.pendingNames) s := by
    use []
    exact ⟨by rintro _ ⟨⟩, rfl, rfl⟩
  have hexact : (s.books []).Exact := by
    rw [Stage.books, h.flights]
    exact ⟨h.tidy.toNumbered, by rintro _ ⟨⟩, List.nodup_nil⟩
  have hcloses : (ofService (.ofBridge s.bridge)).Attains (.closing []) s.closeAll.1 :=
    hbegins.closeEach hexact
  have hwaits : (ofService (.ofBridge s.bridge)).Waits (s.closeAll.1.drive .stop) := by
    have hstops := hcloses.stop
    cases hawaited : s.closeAll.1.bridge.channel.awaited? with
    | none =>
        left
        rw [hawaited] at hstops
        apply hstops
    | some id =>
        right
        use id
        rw [hawaited] at hstops
        apply hstops
  have hended : (s.closeAll.1.drive .stop).pump.bridge.channel.stopping = [] := by
    obtain ⟨hsound, hobeys⟩ := hcloses.rests h
    apply Stage.stopping_pump_stop hsound hobeys
  obtain hrouting | ⟨id, hjoining⟩ := hwaits.pumpFor h (s.closeAll.1.drive .stop).effort
  · apply hrouting.endRouting.follows
    apply Stage.Follows.of_eq
    rw [Stage.stop, Stage.bridge_perform]
    rfl
  · obtain ⟨_, _, hstopping⟩ := hjoining.obeys h
    rw [← Stage.pump, hended] at hstopping
    cases hstopping

/-- When `stop` has returned on a stage, the drafts that there were have been saved, and there is
silence until the next call. -/
theorem saved_of_stop (h : s.Idle) :
  ∃ d, d.service = .ofBridge s.stop.bridge ∧ Saved (.ofBridge s.bridge) d
    ∧ ∀ later, Alone later → Silent d (d.run later)
  := by
  obtain ⟨d, horder, hreturned, hservice⟩ := (attains_stop h).inOrder h
  use d, hservice, horder.saves.saved h.tidy.toWired hreturned
  intro later hlater
  apply horder.silent_run h.tidy.toWired hreturned hlater

/-- A bridge is set up and started, and sections are edited: when `stop` has returned, the drafts have
been saved, and there is silence until the next call. -/
theorem saved_of_edits (debounce window delay capacity : Nat) (desk : Desk) (door : Door)
    (edits : List (String × String × Json)) :
  let s := edits.foldl (fun s (name, field, value) => s.edit name field value)
    (Stage.ofBridge (.unstarted debounce window delay) capacity desk door).start.pump
  ∃ d, d.service = .ofBridge s.stop.bridge ∧ Saved (.ofBridge s.bridge) d
    ∧ ∀ later, Alone later → Silent d (d.run later)
  := by
  intro s
  apply saved_of_stop
  apply List.foldlRecOn edits _ (motive := Stage.Idle)
  · apply (Stage.idle_ofBridge debounce window delay capacity desk door).start.pump
  · exact fun s h edit _ => h.edit edit.1 edit.2.1 edit.2.2

end Shutdown

end Greenhouse
