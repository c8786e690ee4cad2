import Greenhouse.Proofs.Autosave.Failure
import Greenhouse.Proofs.Autosave.Wiring

/-!
# Drafts are not left behind

Edits that nobody will ever send would be as good as lost.  A draft is attended to in one of two
ways: a timer is running that will send it as it is, or it has been sent as it is since the section
was edited last.  Once a draft has been sent in vain it is not sent again by itself, and nothing
more can be asked for.

The main statement is that every draft is attended to at all times.  An edit starts a timer for the
new revision; and a timer for the revision of the draft does not get lost before it has sent the
draft or the section has been sent otherwise, since no other timer has its number.
-/

namespace Greenhouse

namespace AutosaveInput

/-- A section is edited. -/
def Alters (name : String) : AutosaveInput → Prop
  | .edit _ other _ _ => other = name
  | .flush _ | .fire _ | .answer _ _ => False

/-- A section is edited or closed. -/
def Touches (name : String) : AutosaveInput → Prop
  | .edit _ other _ _ | .flush other => other = name
  | .fire _ | .answer _ _ => False

end AutosaveInput

namespace Autosave

/-- A timer is running for a section, and what there is of the section has these fields and the
revision for which the timer was started, unless it has been given up. -/
structure Guards (a : Autosave) (t : SaveTimer) (fields : SettingsFields) : Prop where
  running : t ∈ a.timers
  content : ∀ content ∈ a.content? t.name, content = (fields, t.revision)

/-- A timer will send a draft.  Until it runs down, or the section is edited or closed, it goes on
running, and whenever it runs down it sends the fields of the draft, unless the draft has been given
up by then. -/
structure WillSend (a : Autosave) (t : SaveTimer) (name : String) (d : Draft) : Prop where
  name_eq : t.name = name
  revision_eq : t.revision = d.revision
  waits : ∀ later : List AutosaveInput, (∀ x ∈ later, ¬ x.Touches name ∧ x ≠ .fire t.id) →
    t ∈ (a.advance later).timers
  sends : ∀ later : List AutosaveInput, (∀ x ∈ later, ¬ x.Touches name ∧ x ≠ .fire t.id) →
    (a.advance later).draft? name ≠ none →
      ((a.advance later).step (.fire t.id)).2.1
        = some ⟨(a.advance later).fresh, name, d.fields, d.revision⟩

/-- In a run from nothing, a save of a section with these fields has been sent since the section was
edited last. -/
def SentSince (debounce : Nat) (inputs : List AutosaveInput) (name : String)
    (fields : SettingsFields) : Prop :=
  ∃ earlier x later, inputs = earlier ++ x :: later
    ∧ (∃ s ∈ ((after debounce earlier).step x).2.1, s.name = name ∧ s.fields = fields)
    ∧ ∀ y ∈ x :: later, ¬ y.Alters name

variable {a : Autosave} {name : String} {d : Draft} {t : SaveTimer} {x : AutosaveInput}

/-! ### Contents -/

/-- Without an edit, what there is of a section stays or is given up. -/
theorem content?_step_of_not_alters (hx : ¬ x.Alters name) :
  (a.step x).1.content? name = a.content? name ∨ (a.step x).1.content? name = none
  := by
  cases x with
  | edit now other field value =>
      left
      apply (a.content?_edit now other field value name).trans
      apply if_neg hx
  | flush other =>
      left
      apply (a.sends_flush other).content
  | fire timer =>
      left
      cases ht : a.timers.find? fun t => t.id = timer with
      | none => simp only [step, ht]
      | some t =>
          rw [a.step_fire_of_find? ht]
          apply (a.sends_fire t).content
  | answer save reply => apply a.content?_step_answer

/-- Without an edit, a draft comes from one with the same content. -/
theorem exists_draft?_of_not_alters (hx : ¬ x.Alters name)
    (hd : (a.step x).1.draft? name = some d) :
  ∃ d', a.draft? name = some d' ∧ d'.fields = d.fields ∧ d'.revision = d.revision
  := by
  have hcontent : (a.step x).1.content? name = some (d.fields, d.revision) := by
    rw [content?, hd]
    rfl
  obtain heq | hnone := content?_step_of_not_alters (a := a) hx
  · rw [hcontent] at heq
    obtain ⟨d', hd', hfields⟩ := Option.map_eq_some_iff.mp heq.symm
    obtain ⟨hfields, hrevision⟩ := Prod.mk.inj hfields
    use d'
  · rw [hcontent] at hnone
    cases hnone

/-! ### Timers -/

/-- A timer goes on running until it runs down, or its section is edited or closed. -/
theorem Wired.mem_timers_step (h : a.Wired) (ht : t ∈ a.timers) (hx : ¬ x.Touches t.name)
    (hfire : x ≠ .fire t.id) :
  t ∈ (a.step x).1.timers
  := by
  cases x with
  | edit now other field value =>
      simp only [Autosave.step, timers_edit]
      apply List.mem_append_left
      apply List.mem_filter.mpr ⟨ht, decide_eq_true (h.timer_ne ht (Ne.symm hx))⟩
  | flush other =>
      simp only [Autosave.step, timers_flush]
      apply List.mem_filter.mpr ⟨ht, decide_eq_true (h.timer_ne ht (Ne.symm hx))⟩
  | fire timer =>
      cases hfind : a.timers.find? fun t => t.id = timer with
      | none =>
          simp only [Autosave.step, hfind]
          apply ht
      | some t' =>
          have hid : t'.id = timer := by simpa using List.find?_some hfind
          rw [a.step_fire_of_find? hfind, fire_timers]
          apply List.mem_filter.mpr
          use ht
          apply decide_eq_true
          intro heq
          apply hfire
          rw [heq, hid]
  | answer save reply =>
      cases hfind : a.saves.find? fun s => s.id = save with
      | none =>
          simp only [Autosave.step, hfind]
          apply ht
      | some s =>
          rw [a.step_answer_of_find? hfind, timers_answer]
          apply ht

/-- Closing a section sends its draft. -/
theorem Wired.step_flush (h : a.Wired) (hd : a.draft? name = some d) :
  (a.step (.flush name)).2.1 = some ⟨a.fresh, name, d.fields, d.revision⟩
  := by
  simp only [Autosave.step]
  rw [flush_of_draft hd (h.written name d hd)]

/-- A timer that was started for the revision of the draft sends it. -/
theorem Wired.step_fire (h : a.Wired) (ht : t ∈ a.timers) (hd : a.draft? t.name = some d)
    (hrevision : d.revision = t.revision) :
  (a.step (.fire t.id)).2.1 = some ⟨a.fresh, t.name, d.fields, d.revision⟩
  := by
  rw [a.step_fire_of_mem h.toNumbered ht, a.fire_of_revision hd hrevision]
  have hforgotten : ((a.cancel (some t.id)).putDraft t.name { d with timer := none }).draft? t.name
      = some { d with timer := none } := Table.find?_put_self ..
  rw [flush_of_draft hforgotten (h.written t.name d hd)]
  rfl

theorem Guards.step (hg : a.Guards t d.fields) (h : a.Wired) (hx : ¬ x.Touches t.name)
    (hfire : x ≠ .fire t.id) :
  (a.step x).1.Guards t d.fields
  := by
  use h.mem_timers_step hg.running hx hfire
  intro content hcontent
  have halters : ¬ x.Alters t.name := by
    cases x with
    | edit => apply hx
    | flush | fire | answer => nofun
  obtain heq | hnone := content?_step_of_not_alters (a := a) halters
  · apply hg.content
    rw [← heq]
    apply hcontent
  · rw [hnone] at hcontent
    nomatch hcontent

theorem Guards.advance (hg : a.Guards t d.fields) (h : a.Wired) {later : List AutosaveInput}
    (hlater : ∀ x ∈ later, ¬ x.Touches t.name ∧ x ≠ .fire t.id) :
  (a.advance later).Guards t d.fields
  := by
  induction later using List.reverseRecOn with
  | nil => apply hg
  | append_singleton later x ih =>
      rw [advance_append_singleton]
      obtain ⟨hx, hfire⟩ := hlater x (List.mem_append_right _ (List.mem_singleton_self x))
      apply Guards.step _ (h.advance later) hx hfire
      apply ih
      intro y hy
      apply hlater y (List.mem_append_left _ hy)

/-- A timer of a section that was started for the revision of the draft will send the draft. -/
theorem Wired.willSend (h : a.Wired) (hd : a.draft? name = some d) (ht : t ∈ a.timers)
    (hname : t.name = name) (hrevision : t.revision = d.revision) :
  a.WillSend t name d
  := by
  subst hname
  have hg : a.Guards t d.fields := by
    use ht
    intro content hcontent
    rw [content?, hd] at hcontent
    rw [← Option.some.inj hcontent, hrevision]
  use rfl, hrevision
  · intro later hlater
    apply (hg.advance h hlater).running
  · intro later hlater hdraft
    have hg := hg.advance h hlater
    obtain ⟨d', hd'⟩ := Option.ne_none_iff_exists'.mp hdraft
    have hcontent : (d'.fields, d'.revision) = (d.fields, t.revision) := by
      apply hg.content
      rw [content?, hd']
      rfl
    obtain ⟨hfields, hrevision'⟩ := Prod.mk.inj hcontent
    rw [(h.advance later).step_fire hg.running hd' hrevision', hfields, hrevision', hrevision]

/-! ### Runs -/

section
variable {debounce : Nat} {inputs : List AutosaveInput} {fields : SettingsFields}

theorem SentSince.append_singleton (h : SentSince debounce inputs name fields)
    (hx : ¬ x.Alters name) :
  SentSince debounce (inputs ++ [x]) name fields
  := by
  obtain ⟨earlier, sender, later, rfl, hsent, hquiet⟩ := h
  use earlier, sender, later ++ [x]
  constructor
  · simp
  · use hsent
    intro y hy
    rw [← List.cons_append] at hy
    obtain hy | hy := List.mem_append.mp hy
    · apply hquiet y hy
    · rw [List.mem_singleton.mp hy]
      apply hx

theorem sentSince_of_step {s : Save} (hs : ((after debounce inputs).step x).2.1 = some s)
    (hname : s.name = name) (hfields : s.fields = fields) (hx : ¬ x.Alters name) :
  SentSince debounce (inputs ++ [x]) name fields
  := by
  use inputs, x, [], rfl
  constructor
  · use s, hs
  · intro y hy
    rw [List.mem_singleton.mp hy]
    apply hx

/-- A timer of the section was started for the revision of the draft, or the draft has been sent
since it was edited last. -/
theorem attended_after (hd : (after debounce inputs).draft? name = some d) :
  (∃ t ∈ (after debounce inputs).timers, t.name = name ∧ t.revision = d.revision)
    ∨ SentSince debounce inputs name d.fields
  := by
  induction inputs using List.reverseRecOn generalizing d with
  | nil => cases hd
  | append_singleton inputs x ih =>
      have h := wired_after debounce inputs
      have hafter : after debounce (inputs ++ [x]) = ((after debounce inputs).step x).1 :=
        advance_append_singleton ..
      rw [hafter] at hd ⊢
      by_cases hx : x.Alters name
      · -- the edit starts a timer
        left
        cases x with
        | flush | fire | answer => cases hx
        | edit now other field value =>
            obtain rfl : other = name := hx
            simp only [step, draft?_edit, if_true] at hd
            simp only [step, timers_edit]
            use ⟨(after debounce inputs).fresh, other,
              ((after debounce inputs).begun other).revision + 1,
              now + waitLength (after debounce inputs).debounce⟩
            use List.mem_append_right _ (List.mem_singleton_self _), rfl
            rw [← Option.some.inj hd]
      · obtain ⟨d', hd', hfields, hrevision⟩ := exists_draft?_of_not_alters hx hd
        obtain ⟨t, ht, rfl, htimer⟩ | hsent := ih hd'
        · rw [hrevision] at htimer
          by_cases hfire : x = .fire t.id
          · right
            subst hfire
            have hsent := h.step_fire ht hd' (hrevision.trans htimer.symm)
            apply sentSince_of_step hsent rfl hfields hx
          · by_cases htouches : x.Touches t.name
            · right
              cases x with
              | edit => apply absurd htouches hx
              | fire | answer => cases htouches
              | flush other =>
                  obtain rfl : other = t.name := htouches
                  apply sentSince_of_step (h.step_flush hd') rfl hfields hx
            · left
              use t, h.mem_timers_step ht htouches hfire
        · right
          rw [← hfields]
          apply hsent.append_singleton hx

/-- In every run, every draft has fields, and a timer will send it as it is, or it has been sent as
it is since the section was edited last. -/
theorem draft_attended (debounce : Nat) (inputs : List AutosaveInput) {name : String} {d : Draft}
    (hd : (after debounce inputs).draft? name = some d) :
  d.fields ≠ []
    ∧ ((∃ t, (after debounce inputs).WillSend t name d) ∨ SentSince debounce inputs name d.fields)
  := by
  have h := wired_after debounce inputs
  use h.written name d hd
  obtain ⟨t, ht, hname, hrevision⟩ | hsent := attended_after hd
  · left
    use t
    apply h.willSend hd ht hname hrevision
  · right
    apply hsent

end

/-- A section is closed twice and edited again when the first save has been confirmed.  The second
save then ends the new draft, whose timer goes on, and the section is edited once more. -/
def orphanedTimer : List AutosaveInput :=
  [.edit 0 "n" "a" (.int 1), .flush "n", .flush "n", .answer 1 (.ok ⟨"success", some "A", none⟩),
    .edit 351 "n" "b" (.int 2), .answer 2 (.ok ⟨"success", some "B", none⟩),
    .edit 400 "n" "c" (.int 3)]

/-- Two timers are running for the last draft: its own, and that of the draft before it, which had
the same revision. -/
theorem draft_attended_orphanedTimer :
  (after 1000 orphanedTimer).draft? "n" = some ⟨[("c", .int 3)], 1, some 4⟩
    ∧ (after 1000 orphanedTimer).timers = [⟨3, "n", 1, 1351⟩, ⟨4, "n", 1, 1400⟩]
    ∧ ((∃ t, (after 1000 orphanedTimer).WillSend t "n" ⟨[("c", .int 3)], 1, some 4⟩)
      ∨ SentSince 1000 orphanedTimer "n" [("c", .int 3)])
  := by
  have hdraft : (after 1000 orphanedTimer).draft? "n" = some ⟨[("c", .int 3)], 1, some 4⟩ := by
    decide +kernel
  use hdraft
  constructor
  · decide +kernel
  · apply (draft_attended 1000 orphanedTimer hdraft).2

end Autosave

end Greenhouse
