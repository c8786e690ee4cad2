import Greenhouse.Proofs.Autosave.Attention

/-!
# Settling without edits

As long as no section has two saves under way at once, drafts and timers belong together: every
timer is the one that the draft of its section knows (`Autosave.Tidy`).  From such a state on, when
no save is under way and no more edits are made, the drafts can only be given up: every save carries
the draft as it was, however many saves of a section come about then, and the drafts that are gone
are those of which a save has been confirmed (`Autosave.Settles`).
-/

namespace Greenhouse

namespace Autosave

/-- Every timer is the one that the draft of its section knows. -/
def Known (a : Autosave) : Prop :=
  ∀ t ∈ a.timers, ∃ d, a.draft? t.name = some d ∧ d.timer = some t.id

/-- No section has two saves under way. -/
def OneEach (a : Autosave) : Prop := ∀ name, (a.savesOf name).length ≤ 1

/-- Timers are known, and every save that is under way is of a draft that is still there.  A draft
that is as it was sent has no timer. -/
structure Tidy (a : Autosave) : Prop extends Wired a where
  known : a.Known
  led : ∀ s ∈ a.saves, ∃ d, a.draft? s.name = some d ∧ s.revision ≤ d.revision
    ∧ (s.revision = d.revision → d.timer = none)

/-- Since some earlier state there has been no edit, and these saves have been confirmed: every
draft is what it was, unless it has been given up, and every save under way is of the draft of its
section. -/
structure Settles (before : Autosave) (confirmed : List Save) (a : Autosave) : Prop
    extends Wired a where
  known : a.Known
  carried : ∀ s ∈ a.saves, ∀ d, a.draft? s.name = some d →
    s.revision = d.revision ∧ d.timer = none
  sent : ∀ s ∈ a.saves, before.content? s.name = some (s.fields, s.revision)
  content : ∀ name, a.content? name
    = if ∃ s ∈ confirmed, s.name = name then none else before.content? name

/-- Drafts have only lost timers, and that of a section that has been sent has none. -/
def Loosens (a b : Autosave) (name : String) (sent : Option Save) : Prop :=
  ∀ other d, a.draft? other = some d → ∃ d', b.draft? other = some d' ∧ d'.revision = d.revision
    ∧ (d.timer = none → d'.timer = none) ∧ (sent ≠ none → name = other → d'.timer = none)

variable {a before : Autosave} {confirmed : List Save} {name : String} {t : SaveTimer} {s : Save}

/-! ### Known timers -/

/-- When the timer of a draft is stopped, its section has no timer left. -/
theorem Known.not_mem_filter (h : a.Known)
    (ht : t ∈ a.timers.filter fun t => (a.draft? name).bind Draft.timer ≠ some t.id) :
  t.name ≠ name
  := by
  rintro rfl
  obtain ⟨hmem, hne⟩ := List.mem_filter.mp ht
  obtain ⟨d, hd, htimer⟩ := h t hmem
  apply of_decide_eq_true hne
  rw [hd]
  apply htimer

theorem Known.edit (h : a.Known) (now : Nat) (name field : String) (value : Json) :
  (a.edit now name field value).Known
  := by
  intro t ht
  rw [timers_edit] at ht
  rw [draft?_edit]
  obtain ht | ht := List.mem_append.mp ht
  · rw [if_neg (Ne.symm (h.not_mem_filter ht))]
    apply h t (List.mem_filter.mp ht).1
  · rw [List.mem_singleton.mp ht, if_pos rfl]
    exact ⟨_, rfl, rfl⟩

theorem Known.flush (h : a.Known) (name : String) :
  (a.flush name).1.Known
  := by
  intro t ht
  rw [timers_flush] at ht
  rw [draft?_flush, if_neg (Ne.symm (h.not_mem_filter ht))]
  apply h t (List.mem_filter.mp ht).1

/-- A known timer that runs down was started for the draft as it is. -/
theorem Wired.exists_draft?_of_known (h : a.Wired) (hknown : a.Known) (ht : t ∈ a.timers) :
  ∃ d, a.draft? t.name = some d ∧ d.timer = some t.id ∧ d.revision = t.revision
  := by
  obtain ⟨d, hd, htimer⟩ := hknown t ht
  obtain ⟨due, hmem⟩ := h.linked t.name d t.id hd htimer
  use d, hd, htimer
  rw [List.inj_on_of_nodup_map h.timers ht hmem rfl]

theorem Known.fire (hknown : a.Known) (h : a.Wired) (ht : t ∈ a.timers) :
  (a.fire t).1.Known
  := by
  intro other hother
  rw [fire_timers] at hother
  obtain ⟨hmem, hne⟩ := List.mem_filter.mp hother
  obtain ⟨d, hd, htimer⟩ := hknown other hmem
  obtain ⟨d', hd', htimer', _⟩ := h.exists_draft?_of_known hknown ht
  rw [draft?_fire, if_neg]
  · use d, hd
  · rintro ⟨hname, _⟩
    rw [hname, hd] at hd'
    apply of_decide_eq_true hne
    rw [← Option.some.inj hd', htimer] at htimer'
    apply Option.some.inj htimer'

/-- A draft that is given up is as it was sent, and has no timer. -/
theorem Known.answer (h : a.Known) (outcome : Except SaveError String)
    (htimer : ∀ d, a.draft? s.name = some d → d.revision = s.revision → d.timer = none) :
  (a.answer s outcome).1.Known
  := by
  intro t ht
  rw [timers_answer] at ht
  obtain ⟨d, hd, hid⟩ := h t ht
  rw [draft?_answer, if_neg]
  · use d, hd
  · rintro ⟨hname, _, hrevision⟩
    rw [← hname] at hd
    rw [hd] at hrevision
    rw [htimer d hd (Option.some.inj hrevision)] at hid
    nomatch hid

/-! ### Sending -/

theorem loosens_flush (a : Autosave) (name : String) :
  Loosens a (a.flush name).1 name (a.flush name).2
  := by
  intro other d hd
  rw [draft?_flush]
  by_cases hname : name = other
  · rw [if_pos hname, hname, hd]
    exact ⟨_, rfl, rfl, fun _ => rfl, fun _ _ => rfl⟩
  · rw [if_neg hname]
    use d, hd, rfl, id
    intro _ heq
    contradiction

theorem Wired.loosens_fire (h : a.Wired) (hknown : a.Known) (ht : t ∈ a.timers) :
  Loosens a (a.fire t).1 t.name (a.fire t).2
  := by
  obtain ⟨d, hd, _, hrevision⟩ := h.exists_draft?_of_known hknown ht
  have hmatches : (a.draft? t.name).map Draft.revision = some t.revision := by
    rw [hd, ← hrevision]
    rfl
  intro other d hd
  rw [draft?_fire]
  by_cases hname : t.name = other
  · rw [if_pos ⟨hname, hmatches⟩, hd]
    exact ⟨_, rfl, rfl, fun _ => rfl, fun _ _ => rfl⟩
  · rw [if_neg fun h => hname h.1]
    use d, hd, rfl, id
    intro _ heq
    contradiction

/-- What is sent is of a draft that has no timer then. -/
theorem Loosens.exists_draft? {b : Autosave} {sent : Option Save} (h : Loosens a b name sent)
    (hsend : a.Sends name b sent) (hs : s ∈ sent) :
  ∃ d, b.draft? s.name = some d ∧ d.revision = s.revision ∧ d.timer = none
  := by
  obtain ⟨_, hname, hcontent⟩ := hsend.save s hs
  obtain ⟨d, hd, heq⟩ := Option.map_eq_some_iff.mp hcontent
  obtain ⟨d', hd', hrevision, _, hnone⟩ := h name d hd
  rw [hname]
  use d', hd'
  rw [hrevision, (Prod.mk.inj heq).2]
  use rfl
  apply hnone _ rfl
  rintro rfl
  nomatch hs

/-! ### Tidy states -/

theorem tidy_ofDebounce (debounce : Nat) :
  Tidy (ofDebounce debounce)
  := by
  use wired_ofDebounce debounce
  · nofun
  · nofun

theorem Tidy.edit (h : a.Tidy) (now : Nat) (name field : String) (value : Json) :
  (a.edit now name field value).Tidy
  := by
  use h.toWired.edit now name field value, h.known.edit now name field value
  intro s hs
  rw [saves_edit] at hs
  obtain ⟨d, hd, hle, htimer⟩ := h.led s hs
  rw [draft?_edit]
  by_cases hname : name = s.name
  · rw [if_pos hname, hname, begun, hd]
    refine ⟨_, rfl, ?_, ?_⟩
    · apply Nat.le_succ_of_le hle
    · intro heq
      simp only [Option.getD_some] at heq
      omega
  · rw [if_neg hname]
    use d, hd

theorem Tidy.send (h : a.Tidy) {b : Autosave} {sent : Option Save} (hb : b.Wired) (hknown : b.Known)
    (hsend : a.Sends name b sent) (hloosens : Loosens a b name sent) :
  b.Tidy
  := by
  use hb, hknown
  intro s hs
  rw [hsend.saves] at hs
  obtain hs | hs := List.mem_append.mp hs
  · obtain ⟨d, hd, hle, htimer⟩ := h.led s hs
    obtain ⟨d', hd', hrevision, hnone, _⟩ := hloosens s.name d hd
    use d', hd'
    rw [hrevision]
    use hle
    intro heq
    apply hnone (htimer heq)
  · obtain ⟨d, hd, hrevision, hnone⟩ := hloosens.exists_draft? hsend (Option.mem_toList.mp hs)
    use d, hd, Nat.le_of_eq hrevision.symm
    intro _
    apply hnone

/-- The only save of a section is answered. -/
theorem Tidy.answer (h : a.Tidy) (hone : a.OneEach) (hs : s ∈ a.saves)
    (outcome : Except SaveError String) :
  (a.answer s outcome).1.Tidy
  := by
  have htimer (d : Draft) (hd : a.draft? s.name = some d) (hrevision : d.revision = s.revision) :
      d.timer = none := by
    obtain ⟨d', hd', _, hnone⟩ := h.led s hs
    rw [hd] at hd'
    rw [Option.some.inj hd'] at hrevision ⊢
    apply hnone hrevision.symm
  use h.toWired.answer s outcome, h.known.answer outcome htimer
  intro s' hs'
  rw [saves_answer] at hs'
  obtain ⟨hmem, hid⟩ := List.mem_filter.mp hs'
  have hother : s.name ≠ s'.name := by
    intro hname
    have hs : s ∈ a.savesOf s.name := List.mem_filter.mpr ⟨hs, decide_eq_true rfl⟩
    have hs' : s' ∈ a.savesOf s.name := List.mem_filter.mpr ⟨hmem, decide_eq_true hname.symm⟩
    obtain ⟨only, honly⟩ := List.length_eq_one_iff.mp
      (Nat.le_antisymm (hone s.name) (List.length_pos_of_mem hs))
    rw [honly] at hs hs'
    rw [List.mem_singleton.mp hs, List.mem_singleton.mp hs'] at hid
    simp at hid
  rw [draft?_answer, if_neg fun h => hother h.1]
  apply h.led s' hmem

/-- As long as no section has two saves under way, a state stays tidy. -/
theorem Tidy.step (h : a.Tidy) (hone : a.OneEach) (x : AutosaveInput) :
  (a.step x).1.Tidy
  := by
  cases x with
  | edit now name field value => apply h.edit
  | flush name =>
      apply h.send (h.toWired.flush name) (h.known.flush name) (a.sends_flush name)
        (a.loosens_flush name)
  | fire timer =>
      cases hfind : a.timers.find? fun t => t.id = timer with
      | none =>
          simp only [Autosave.step, hfind]
          apply h
      | some t =>
          have ht := List.mem_of_find?_eq_some hfind
          rw [a.step_fire_of_find? hfind]
          apply h.send (h.toWired.fire ht) (h.known.fire h.toWired ht) (a.sends_fire t)
            (h.toWired.loosens_fire h.known ht)
  | answer save reply =>
      cases hs : a.saves.find? fun s => s.id = save with
      | none =>
          simp only [Autosave.step, hs]
          apply h
      | some s =>
          rw [a.step_answer_of_find? hs]
          apply h.answer hone (List.mem_of_find?_eq_some hs)

/-! ### Settling -/

/-- A tidy state in which no save is under way begins to settle. -/
theorem Tidy.settles (h : a.Tidy) (hsaves : a.saves = []) :
  Settles a [] a
  := by
  use h.toWired, h.known
  · rw [hsaves]
    nofun
  · rw [hsaves]
    nofun
  · simp

/-- What there is of a section is what there was. -/
theorem Settles.content?_before (h : Settles before confirmed a) {content : SettingsFields × Nat}
    (hcontent : a.content? name = some content) :
  before.content? name = some content
  := by
  rw [h.content] at hcontent
  split at hcontent
  · nomatch hcontent
  · apply hcontent

theorem Settles.send (h : Settles before confirmed a) {b : Autosave} {sent : Option Save}
    (hb : b.Wired) (hknown : b.Known) (hsend : a.Sends name b sent)
    (hloosens : Loosens a b name sent) :
  Settles before confirmed b
  := by
  use hb, hknown
  · intro s hs d hd
    rw [hsend.saves] at hs
    obtain hs | hs := List.mem_append.mp hs
    · have hcontent : a.content? s.name = some (d.fields, d.revision) := by
        rw [← hsend.content, content?, hd]
        rfl
      obtain ⟨d', hd', heq⟩ := Option.map_eq_some_iff.mp hcontent
      obtain ⟨hrevision, htimer⟩ := h.carried s hs d' hd'
      obtain ⟨d'', hd'', _, hnone, _⟩ := hloosens s.name d' hd'
      rw [hd] at hd''
      rw [hrevision, (Prod.mk.inj heq).2]
      use rfl
      rw [Option.some.inj hd'']
      apply hnone htimer
    · obtain ⟨d', hd', hrevision, hnone⟩ := hloosens.exists_draft? hsend (Option.mem_toList.mp hs)
      rw [hd] at hd'
      rw [Option.some.inj hd']
      use hrevision.symm
  · intro s hs
    rw [hsend.saves] at hs
    obtain hs | hs := List.mem_append.mp hs
    · apply h.sent s hs
    · obtain ⟨_, hname, hcontent⟩ := hsend.save s (Option.mem_toList.mp hs)
      rw [hname]
      apply h.content?_before hcontent
  · intro other
    rw [hsend.content, h.content]

theorem Settles.answer (h : Settles before confirmed a) (hs : s ∈ a.saves)
    (outcome : Except SaveError String) :
  Settles before (confirmed ++ if outcome.isOk then [s] else []) (a.answer s outcome).1
  := by
  have htimer (d : Draft) (hd : a.draft? s.name = some d) (_ : d.revision = s.revision) :
      d.timer = none := (h.carried s hs d hd).2
  have hold {s' : Save} (hs' : s' ∈ (a.answer s outcome).1.saves) : s' ∈ a.saves := by
    rw [saves_answer] at hs'
    apply (List.mem_filter.mp hs').1
  use h.toWired.answer s outcome, h.known.answer outcome htimer
  · intro s' hs' d hd
    rw [draft?_answer] at hd
    split at hd
    · nomatch hd
    · apply h.carried s' (hold hs') d hd
  · intro s' hs'
    apply h.sent s' (hold hs')
  · intro name
    rw [content?_answer, h.content name]
    by_cases hok : outcome.isOk = true
    · by_cases hname : s.name = name
      · -- the save is of the draft, if that is still there
        have hconfirmed :
            ∃ s' ∈ confirmed ++ (if outcome.isOk then [s] else []), s'.name = name := by
          use s
          simp [hok, hname]
        rw [if_pos hconfirmed]
        split
        · rfl
        · next hnot =>
            rw [← h.content, ← hname]
            cases hd : a.draft? s.name with
            | none => rw [content?, hd]; rfl
            | some d =>
                apply absurd _ hnot
                rw [content?, hd, (h.carried s hs d hd).1]
                exact ⟨hname, hok, rfl⟩
      · rw [if_neg fun h => hname h.1]
        simp [hok, hname, or_and_right, exists_or]
    · rw [if_neg fun h => hok h.2.1]
      simp [hok]

/-- Without an edit, drafts go on settling. -/
theorem Settles.step (h : Settles before confirmed a) {x : AutosaveInput}
    (hx : ∀ name, ¬ x.Alters name) :
  Settles before (confirmed ++ (a.confirms x).toList) (a.step x).1
  := by
  cases x with
  | edit now name field value => apply absurd rfl (hx name)
  | flush name =>
      rw [confirms, Option.toList_none, List.append_nil]
      apply h.send (h.toWired.flush name) (h.known.flush name) (a.sends_flush name)
        (a.loosens_flush name)
  | fire timer =>
      rw [confirms, Option.toList_none, List.append_nil]
      cases hfind : a.timers.find? fun t => t.id = timer with
      | none =>
          simp only [Autosave.step, hfind]
          apply h
      | some t =>
          have ht := List.mem_of_find?_eq_some hfind
          rw [a.step_fire_of_find? hfind]
          apply h.send (h.toWired.fire ht) (h.known.fire h.toWired ht) (a.sends_fire t)
            (h.toWired.loosens_fire h.known ht)
  | answer save reply =>
      cases hs : a.saves.find? fun s => s.id = save with
      | none =>
          simp only [Autosave.step, confirms, hs, Option.filter_none, Option.toList_none,
            List.append_nil]
          apply h
      | some s =>
          have hconfirms : (a.confirms (.answer save reply)).toList
              = if (s.outcome reply).isOk then [s] else [] := by
            rw [confirms, hs]
            cases hok : (s.outcome reply).isOk <;> simp [Option.filter, hok]
          rw [a.step_answer_of_find? hs, hconfirms]
          apply h.answer (List.mem_of_find?_eq_some hs)

end Autosave

end Greenhouse
