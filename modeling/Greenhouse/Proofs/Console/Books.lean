import Mathlib.Logic.Relation
import Greenhouse.Proofs.Autosave.Step
import Greenhouse.Rehearsal.Calls

/-!
# Books of a stage

Whatever a stage does, as far as saving settings is concerned it notes requests, sends sections,
and hears replies.  `Books.Turn` has these as its cases, and every call of the bridge that is no
edit is a chain of such turns.  So what holds of saves on a stage is proved from the turns, and
the calls are taken apart only once.
-/

namespace Greenhouse.Rehearsal

/-- What a stage keeps about saving settings. -/
structure Books where
  autosave : Autosave
  /-- The saves that have not been answered. -/
  underWay : List Save
  /-- The requests that have been noted. -/
  calls : List Request

namespace Books

/-- Something that happens to the books, and that is no edit. -/
inductive Turn : Books → Books → Prop
  /-- A request is noted. -/
  | note (b : Books) (r : Request) : Turn b { b with calls := b.calls ++ [r] }
  /-- Nothing is sent, and the drafts keep their contents. -/
  | still (b : Books) {a : Autosave}
    (content : ∀ name, a.content? name = b.autosave.content? name) :
    Turn b { b with autosave := a }
  /-- A section is sent. -/
  | sent (b : Books) {a : Autosave} {save : Save} {saves : List Save}
    (content : ∀ name, a.content? name = b.autosave.content? name)
    (draft : b.autosave.content? save.name = some (save.fields, save.revision))
    (saves_subset : ∀ s ∈ saves, s = save ∨ s ∈ b.underWay) :
    Turn b ⟨a, saves, b.calls ++ [.saveSettings save.request]⟩
  /-- A save is answered. -/
  | answered (b : Books) {save : Save} {saves : List Save} (outcome : Except SaveError String)
    (mem : save ∈ b.underWay) (saves_subset : saves ⊆ b.underWay) :
    Turn b ⟨(b.autosave.answer save outcome).1, saves, b.calls⟩

/-- Turns in a row. -/
def Turns : Books → Books → Prop := Relation.ReflTransGen Turn

/-- Every save that has not been answered has been noted. -/
def Noted (b : Books) : Prop := ∀ save ∈ b.underWay, .saveSettings save.request ∈ b.calls

/-- A content of a section has been sent, or will be: its draft has it, and no save is under way
whose answer might erase it. -/
def Keeps (name : String) (content : SettingsFields × Nat) (b : Books) : Prop :=
  .saveSettings ⟨name, content.1⟩ ∈ b.calls
    ∨ b.autosave.content? name = some content
      ∧ ∀ save ∈ b.underWay, ¬ (save.name = name ∧ save.revision = content.2)

variable {b b' : Books}

theorem Turn.mem_calls (h : b.Turn b') {r : Request} (hr : r ∈ b.calls) :
  r ∈ b'.calls
  := by
  cases h with
  | note | sent => exact List.mem_append_left _ hr
  | still | answered => exact hr

theorem Turn.noted (h : b.Turn b') (hnoted : b.Noted) :
  b'.Noted
  := by
  cases h with
  | note r => exact fun save hsave => List.mem_append_left _ (hnoted save hsave)
  | still content => exact hnoted
  | sent content draft saves_subset =>
      intro save hsave
      obtain rfl | hsave := saves_subset save hsave
      · apply List.mem_append_right _ (List.mem_singleton.mpr rfl)
      · apply List.mem_append_left _ (hnoted save hsave)
  | answered outcome mem saves_subset => exact fun save hsave => hnoted save (saves_subset hsave)

theorem Turn.keeps (h : b.Turn b') {name : String} {content : SettingsFields × Nat}
    (hkeeps : b.Keeps name content) :
  b'.Keeps name content
  := by
  obtain hsent | ⟨hcontent, hunderWay⟩ := hkeeps
  · left
    apply h.mem_calls hsent
  · cases h with
    | note r => exact .inr ⟨hcontent, hunderWay⟩
    | still same => exact .inr ⟨(same name).trans hcontent, hunderWay⟩
    | @sent _ save _ same draft saves_subset =>
        by_cases hname : save.name = name
        · left
          subst hname
          rw [hcontent] at draft
          rw [Option.some.inj draft]
          apply List.mem_append_right _ (List.mem_singleton.mpr rfl)
        · right
          use (same name).trans hcontent
          intro other hother
          obtain rfl | hother := saves_subset other hother
          · exact fun h => hname h.1
          · apply hunderWay other hother
    | @answered save _ outcome mem saves_subset =>
        right
        constructor
        · rw [Autosave.content?_answer, if_neg, hcontent]
          rintro ⟨rfl, _, hrevision⟩
          rw [hcontent] at hrevision
          apply hunderWay save mem ⟨rfl, (Option.some.inj hrevision).symm⟩
        · intro other hother
          apply hunderWay other (saves_subset hother)

theorem Turns.mem_calls (h : b.Turns b') {r : Request} (hr : r ∈ b.calls) :
  r ∈ b'.calls
  := by
  induction h with
  | refl => exact hr
  | tail _ hturn ih => exact hturn.mem_calls ih

theorem Turns.noted (h : b.Turns b') (hnoted : b.Noted) :
  b'.Noted
  := by
  induction h with
  | refl => exact hnoted
  | tail _ hturn ih => exact hturn.noted ih

theorem Turns.keeps (h : b.Turns b') {name : String} {content : SettingsFields × Nat}
    (hkeeps : b.Keeps name content) :
  b'.Keeps name content
  := by
  induction h with
  | refl => exact hkeeps
  | tail _ hturn ih => exact hturn.keeps ih

end Books

namespace Stage

/-- The books of a stage, when some saves are in hand. -/
def books (s : Stage) (hand : List Save) : Books :=
  ⟨s.bridge.autosave, hand ++ s.flights.map Flight.save, s.calls⟩

/-- One stage becomes another by turns. -/
def Leads (s t : Stage) : Prop := ∀ hand, (s.books hand).Turns (t.books hand)

variable {s t u : Stage}

theorem Leads.of_eq (h : ∀ hand, t.books hand = s.books hand) :
  s.Leads t
  := by
  intro hand
  rw [h]
  exact .refl

theorem Leads.trans (h : s.Leads t) (h' : t.Leads u) :
  s.Leads u
  := fun hand => Relation.ReflTransGen.trans (h hand) (h' hand)

/-! ### The channel and its other end -/

/-- A supervisor makes no call by itself. -/
theorem ne_call_of_next? {v : Supervisor} {x : ChannelInput} (h : s.next? v = some x) :
  x ≠ .connect ∧ x ≠ .stop
  := by
  constructor
  · rintro rfl
    simp only [next?] at h
    grind [Option.map_eq_some_iff]
  · rintro rfl
    simp only [next?] at h
    grind [Option.map_eq_some_iff]

/-- What is kept when the other end is told something, and when something happens to the channel that
is no call, is kept while both go on. -/
theorem pumpFor_induction {P : Stage → Prop} (hhear : ∀ s mail, P s → P { s with mail })
    (htell : ∀ s id m, P s → P (s.tell id m))
    (hdrive : ∀ s x, x ≠ .connect → x ≠ .stop → P s → P (s.drive x)) (h : P s) (fuel : Nat) :
  P (pumpFor fuel s)
  := by
  have hdeliver (s : Stage) (h : P s) (id : Nat) (m : Message) : P (s.deliver id m) := by
    unfold deliver
    split
    · apply hdrive _ _ (by simp) (by simp) h
    · split
      · apply hdrive _ _ (by simp) (by simp) h
      · apply hdrive _ _ (by simp) (by simp)
        split
        · apply htell _ _ _ h
        · exact h
      · apply hdrive _ _ (by simp) (by simp) h
  induction fuel generalizing s with
  | zero => exact h
  | succ fuel ih =>
      rw [pumpFor]
      split
      · next id m mail _ => apply ih (hdeliver _ (hhear s mail h) id m)
      · split
        · next x hx =>
            obtain ⟨v, _, hnext⟩ := List.exists_of_findSome?_eq_some hx
            obtain ⟨hconnect, hstop⟩ := ne_call_of_next? hnext
            apply ih (hdrive s x hconnect hstop h)
        · exact h

/-! ### What leaves the books alone -/

theorem books_with_bridge (s : Stage) {bridge : Bridge}
    (h : bridge.autosave = s.bridge.autosave) (hand : List Save) :
  { s with bridge }.books hand = s.books hand
  := by
  rw [books, h, books]

theorem books_perform (s : Stage) (effects : List Effect) (hand : List Save) :
  (s.perform effects).books hand = s.books hand
  := by
  rw [perform]
  induction effects generalizing s with
  | nil => rfl
  | cons effect effects ih =>
      rw [List.foldl_cons, ih]
      cases effect <;> rfl

theorem books_tell (s : Stage) (id : Nat) (m : Message) (hand : List Save) :
  (s.tell id m).books hand = s.books hand
  := by
  rw [tell]
  split <;> rfl

theorem books_absorb (s : Stage) (effect : ChannelEffect) (hand : List Save) :
  (s.absorb effect).books hand = s.books hand
  := by
  cases effect with
  | wrote => apply books_tell
  | answer => apply books_perform
  | signal | count | dial | stopped => rfl

theorem books_absorbAll (s : Stage) (effects : List ChannelEffect) (hand : List Save) :
  (s.absorbAll effects).books hand = s.books hand
  := by
  rw [absorbAll]
  induction effects generalizing s with
  | nil => rfl
  | cons effect effects ih => rw [List.foldl_cons, ih, books_absorb]

theorem books_drive (s : Stage) (input : ChannelInput) (hand : List Save) :
  (s.drive input).books hand = s.books hand
  := by
  unfold drive
  generalize hdriven : s.bridge.drive s.now input = driven
  have hbooks : ({ s with bridge := driven.1 }.absorbAll driven.2).books hand = s.books hand := by
    rw [books_absorbAll, ← hdriven]
    exact books_with_bridge s rfl hand
  obtain ⟨bridge, effects⟩ := driven
  simp only
  split
  · split
    · apply hbooks
    · apply hbooks
  · rw [books_tell]
    apply hbooks
  · apply hbooks

theorem books_pump (s : Stage) (hand : List Save) :
  s.pump.books hand = s.books hand
  := by
  apply pumpFor_induction (P := fun t => t.books hand = s.books hand)
  · exact fun t mail h => h
  · exact fun t id m h => (books_tell t id m hand).trans h
  · exact fun t x _ _ h => (books_drive t x hand).trans h
  · rfl

theorem autosave_routeAll (b : Bridge) (now : Nat) (signals : List Signal) :
  (b.routeAll now signals).1.autosave = b.autosave
  := by
  induction signals generalizing b with
  | nil => rfl
  | cons signal signals ih =>
      rw [Bridge.routeAll]
      apply (ih _).trans
      cases signal with
      | state => rfl
      | inbound frame =>
          simp only [Bridge.route]
          split <;> rfl

theorem autosave_catchUp (b : Bridge) (now : Nat) :
  (b.catchUp now).1.autosave = b.autosave
  := autosave_routeAll _ _ _

theorem books_route (s : Stage) (hand : List Save) :
  s.route.books hand = s.books hand
  := by
  apply (books_perform _ _ _).trans
  exact books_with_bridge s (autosave_catchUp s.bridge s.now) hand

theorem autosave_finish (b : Bridge) (now : Nat) (o : Order) (reply : Reply) :
  (b.finish now o reply).1.autosave = b.autosave
  := by
  rw [Bridge.finish]
  split
  · rfl
  · rfl
  · cases o <;> rfl

/-! ### Requests and replies -/

/-- A request is noted, and that is all that the books show of it. -/
theorem ask_fst (s : Stage) (r : Request) :
  (s.ask r).1.bridge = s.bridge ∧ (s.ask r).1.flights = s.flights
    ∧ (s.ask r).1.calls = s.calls ++ [r]
  := by
  rw [ask]
  split <;> exact ⟨rfl, rfl, rfl⟩

theorem books_ask (s : Stage) (r : Request) (hand : List Save) :
  (s.ask r).1.books hand = { s.books hand with calls := s.calls ++ [r] }
  := by
  obtain ⟨hbridge, hflights, hcalls⟩ := s.ask_fst r
  rw [books, hbridge, hflights, hcalls, books]

theorem books_finishSave (s : Stage) (save : Save) (reply : Reply) (hand : List Save) :
  ∃ outcome, (s.finishSave save reply).1.books hand
    = { s.books hand with autosave := (s.bridge.autosave.answer save outcome).1 }
  := by
  use save.outcome (reply.read SettingsResponse.shape.reader)
  apply books_perform

theorem first?_mem {agenda : List (Nat × Nat × Happening)} {entry : Nat × Nat × Happening}
    (h : first? agenda = some entry) :
  entry ∈ agenda
  := by
  induction agenda generalizing entry with
  | nil => nomatch h
  | cons first rest ih =>
      obtain ⟨due, id, happening⟩ := first
      rw [first?] at h
      cases hrest : first? rest with
      | none =>
          simp only [hrest] at h
          rw [← Option.some.inj h]
          apply List.mem_cons_self
      | some next =>
          simp only [hrest] at h
          split at h
          · rw [← Option.some.inj h]
            apply List.mem_cons_of_mem _ (ih hrest)
          · rw [← Option.some.inj h]
            apply List.mem_cons_self

theorem mem_flights_of_agenda {due id : Nat} {flight : Flight}
    (h : (due, id, .reply flight) ∈ s.agenda) :
  flight ∈ s.flights
  := by
  simp only [agenda, List.mem_append, List.mem_map] at h
  obtain (⟨_, _, heq⟩ | ⟨f, hf, heq⟩) | h := h
  · nomatch heq
  · obtain rfl := Happening.reply.inj (Prod.ext_iff.mp (Prod.ext_iff.mp heq).2).2
    apply hf
  · split at h
    · obtain heq := List.mem_singleton.mp h
      nomatch heq
    · nomatch h

/-- The reply to a save arrives, and the save is not under way any more. -/
theorem finishSave_turn {save : Save} {hand : List Save} {saves : List Save} (reply : Reply)
    (hmem : save ∈ saves) (hsaves : hand ++ s.flights.map Flight.save ⊆ saves) :
  (Books.mk s.bridge.autosave saves s.calls).Turn ((s.finishSave save reply).1.books hand)
  := by
  obtain ⟨outcome, heq⟩ := s.books_finishSave save reply hand
  rw [heq]
  exact .answered _ outcome hmem hsaves

/-- A section is sent from an earlier state of its draft, and nobody waits for the reply. -/
theorem launch_turns {a : Autosave} {save : Save} (hand : List Save)
    (hcontent : ∀ name, s.bridge.autosave.content? name = a.content? name)
    (hdraft : a.content? save.name = some (save.fields, save.revision)) :
  (Books.mk a (hand ++ s.flights.map Flight.save) s.calls).Turns ((s.launch save).books hand)
  := by
  have hsent (saves : List Save)
      (hsaves : ∀ x ∈ saves, x = save ∨ x ∈ hand ++ s.flights.map Flight.save) :
      (Books.mk a (hand ++ s.flights.map Flight.save) s.calls).Turn
        ⟨s.bridge.autosave, saves, s.calls ++ [.saveSettings save.request]⟩ :=
    .sent _ hcontent hdraft hsaves
  obtain ⟨hbridge, hflights, hcalls⟩ := s.ask_fst (.saveSettings save.request)
  rw [← hbridge, ← hcalls] at hsent
  unfold launch
  generalize s.ask (.saveSettings save.request) = asked at hsent hbridge hflights hcalls
  obtain ⟨asker, delay, reply⟩ := asked
  simp only at hsent hbridge hflights hcalls ⊢
  split
  · apply (Relation.ReflTransGen.single (hsent (save :: (hand ++ s.flights.map Flight.save)) _)).tail
    · apply finishSave_turn reply List.mem_cons_self
      rw [hflights]
      apply List.subset_cons_self
    · intro x hx
      apply List.mem_cons.mp hx
  · apply Relation.ReflTransGen.single
    apply hsent
    rw [hflights]
    intro x hx
    simp only [List.map_append, List.mem_append, List.map_singleton, List.mem_singleton] at hx ⊢
    grind

/-! ### Time -/

theorem happen_leads {h : Happening} (hmem : ∀ flight, h = .reply flight → flight ∈ s.flights) :
  s.Leads (s.happen h)
  := by
  cases h with
  | timer timer =>
      intro hand
      have hsends := s.bridge.autosave.sends_fire timer
      simp only [happen, Bridge.fire]
      cases hsave : (s.bridge.autosave.fire timer).2 with
      | none => exact .single (.still _ hsends.content)
      | some save =>
          obtain ⟨_, hname, hdraft⟩ := hsends.save save hsave
          exact launch_turns (s := { s with bridge := (s.bridge.fire timer).1 }) hand hsends.content
            (hname ▸ hdraft)
  | reply flight =>
      intro hand
      have hopen : flight.save ∈ hand ++ s.flights.map Flight.save := by
        apply List.mem_append_right
        apply List.mem_map_of_mem (hmem flight rfl)
      apply Relation.ReflTransGen.single
      refine finishSave_turn (s := { s with
        flights := s.flights.filter fun f => f.save.id != flight.save.id }) flight.reply hopen ?_
      intro save hsave
      obtain hsave | hsave := List.mem_append.mp hsave
      · apply List.mem_append_left _ hsave
      · apply List.mem_append_right _ ((List.filter_sublist.map Flight.save).subset hsave)
  | window =>
      apply Leads.of_eq
      intro hand
      apply books_perform

theorem passFor_leads (fuel moment : Nat) (s : Stage) :
  s.Leads (passFor fuel moment s)
  := by
  induction fuel generalizing s with
  | zero => exact .of_eq fun _ => rfl
  | succ fuel ih =>
      rw [passFor]
      split
      · next due id h hfirst =>
          split
          · apply Leads.trans _ (ih _)
            apply Leads.trans (t := { s with now := max s.now due }) (.of_eq fun _ => rfl)
            apply happen_leads
            rintro flight rfl
            apply mem_flights_of_agenda (first?_mem hfirst)
          · exact .of_eq fun _ => rfl
      · exact .of_eq fun _ => rfl

theorem wait_leads (s : Stage) (duration : Nat) :
  s.Leads (s.wait duration)
  := (passFor_leads _ _ s).trans (.of_eq fun _ => rfl)

theorem settle_leads (s : Stage) :
  s.Leads s.settle
  := by
  apply (passFor_leads _ _ s).trans
  apply Leads.of_eq
  intro hand
  apply (books_route _ _).trans (books_pump _ _)

theorem replyTo_leads (s : Stage) (r : Request) :
  s.Leads (s.replyTo r).1
  := by
  have hask : s.Leads (s.ask r).1 := by
    intro hand
    rw [books_ask]
    exact .single (.note _ r)
  exact hask.trans (wait_leads _ _)

/-! ### Calls -/

theorem order_leads (s : Stage) (o : Order) :
  s.Leads (s.order o).1
  := by
  apply (s.replyTo_leads o.request).trans
  apply Leads.of_eq
  intro hand
  apply (books_perform _ _ _).trans
  exact books_with_bridge _ (autosave_finish _ _ _ _) hand

/-- A section that has something to send is sent first; the save is in hand as long as the
operator waits for its reply. -/
theorem close_of_flush {name : String} {save : Save}
    (h : (s.bridge.autosave.flush name).2 = some save) (hand : List Save) :
  (s.books hand).Turn ⟨(s.bridge.autosave.flush name).1,
      save :: (hand ++ s.flights.map Flight.save), s.calls ++ [.saveSettings save.request]⟩
    ∧ Books.Turns ⟨(s.bridge.autosave.flush name).1,
      save :: (hand ++ s.flights.map Flight.save), s.calls ++ [.saveSettings save.request]⟩
      ((s.close name).1.books hand)
  := by
  have hsends := s.bridge.autosave.sends_flush name
  obtain ⟨_, hname, hdraft⟩ := hsends.save save h
  constructor
  · apply Books.Turn.sent _ hsends.content
    · rw [hname]
      apply hdraft
    · intro x hx
      apply List.mem_cons.mp hx
  · have hasked := books_ask { s with bridge := (s.bridge.flush name).1 }
      (.saveSettings save.request) (save :: hand)
    have hwaits := wait_leads ({ s with bridge := (s.bridge.flush name).1 }.ask
      (.saveSettings save.request)).1 ({ s with bridge := (s.bridge.flush name).1 }.ask
      (.saveSettings save.request)).2.1 (save :: hand)
    rw [hasked] at hwaits
    simp only [close, Bridge.flush, h]
    apply Relation.ReflTransGen.trans hwaits
    apply Relation.ReflTransGen.single
    apply finishSave_turn
    · apply List.mem_cons_self
    · apply List.subset_cons_self

theorem close_leads (s : Stage) (name : String) :
  s.Leads (s.close name).1
  := by
  intro hand
  cases hsave : (s.bridge.autosave.flush name).2 with
  | none =>
      simp only [close, Bridge.flush, hsave]
      exact .single (.still _ (s.bridge.autosave.sends_flush name).content)
  | some save =>
      obtain ⟨hsent, hrest⟩ := close_of_flush hsave hand
      apply Relation.ReflTransGen.head hsent hrest

theorem closeEach_leads (s : Stage) (names : List String) :
  s.Leads (s.closeEach names).1
  := by
  induction names generalizing s with
  | nil => exact .of_eq fun _ => rfl
  | cons name names ih => exact (s.close_leads name).trans (ih _)

theorem books_stop (s : Stage) (hand : List Save) :
  s.stop.books hand = s.closeAll.1.books hand
  := by
  apply (books_perform _ _ _).trans
  apply (books_with_bridge _ (autosave_catchUp _ _) hand).trans
  rw [books_pump, books_drive]

theorem submit_leads (s : Stage) (command : Command) :
  s.Leads (s.submit command).1
  := by
  apply Leads.of_eq
  intro hand
  apply (books_pump _ _).trans
  apply (books_absorbAll _ _ _).trans
  exact books_with_bridge s rfl hand

theorem autosave_start (b : Bridge) (now : Nat) :
  (b.start now).1.autosave = b.autosave
  := by
  rw [Bridge.start]
  split <;> rfl

theorem start_leads (s : Stage) :
  s.Leads s.start
  := by
  apply Leads.of_eq
  intro hand
  apply (books_absorbAll _ _ _).trans
  exact books_with_bridge s (autosave_start s.bridge s.now) hand

end Stage

end Greenhouse.Rehearsal
