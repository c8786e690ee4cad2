import Greenhouse.Proofs.Autosave.Journal

/-!
# What is left when a save fails

When a save fails, the draft of its section should still hold what was sent, so that nothing has
to be typed again: `Journal.Retains` says that every field of the save is in the draft, with the
value that was sent or with that of a later edit.

The answer that fails a save does not look at the draft, and the confirmation of another save of
the section may have ended it meanwhile.  The main statement is that this is the only way: what is
missing after a failure are the fields that were not edited again since the draft was given up.
-/

namespace Greenhouse

namespace AutosaveInput

/-- An input edits a field of a section. -/
def Edits (name field : String) : AutosaveInput → Prop
  | .edit _ other which _ => other = name ∧ which = field
  | .flush _ | .fire _ | .answer _ _ => False

end AutosaveInput

namespace Autosave

/-- The save that an input fails. -/
def fails (a : Autosave) : AutosaveInput → Option Save
  | .answer save reply =>
    (a.saves.find? fun s => s.id = save).filter fun s => !(s.outcome reply).isOk
  | .edit _ _ _ _ | .flush _ | .fire _ => none

/-- The draft of a section is given up on an input. -/
def GivesUp (a : Autosave) (x : AutosaveInput) (name : String) : Prop :=
  a.content? name ≠ none ∧ (a.step x).1.content? name = none

variable {a : Autosave}

/-- A failure is only published when a save fails, and names its section. -/
theorem exists_fails_of_settingsFailed {x : AutosaveInput} {name reason : String}
    (h : .publish (.settingsFailed name reason) ∈ (a.step x).2.2) :
  ∃ s ∈ a.fails x, s.name = name
  := by
  cases x with
  | edit now name field value => cases h
  | flush name => cases h
  | fire timer =>
      rw [step] at h
      split at h
      · cases h
      · cases h
  | answer save reply =>
      rw [step] at h
      split at h
      · cases h
      · next s hs =>
          use s
          cases houtcome : s.outcome reply with
          | ok bcc => simp [answer, announce, houtcome] at h
          | error e =>
              constructor
              · simp [fails, hs, houtcome, Option.filter, Except.isOk, Except.toBool]
              · simp only [answer, announce, houtcome] at h
                simp at h
                apply h.1.symm

theorem mem_saves_of_fails {x : AutosaveInput} {s : Save} (h : s ∈ a.fails x) :
  s ∈ a.saves
  := by
  cases x with
  | answer save reply => exact List.mem_of_find?_eq_some (Option.filter_eq_some_iff.mp h).1
  | edit | flush | fire => nomatch h

/-- A failure leaves the contents of all drafts. -/
theorem content?_step_of_fails {x : AutosaveInput} {s : Save} (h : s ∈ a.fails x) (name : String) :
  (a.step x).1.content? name = a.content? name
  := by
  cases x with
  | answer save reply =>
      obtain ⟨hs, hfailed⟩ := Option.filter_eq_some_iff.mp h
      have hstep : (a.step (.answer save reply)).1 = (a.answer s (s.outcome reply)).1 := by
        rw [step, hs]
      rw [hstep, content?_answer]
      apply if_neg
      rintro ⟨_, hok, _⟩
      rw [hok] at hfailed
      cases hfailed
  | edit | flush | fire => cases h

/-! ### Steps -/

/-- Only a section with fields is sent. -/
theorem fields_ne_nil_of_flush {name : String} {s : Save} (h : s ∈ (a.flush name).2) :
  s.fields ≠ []
  := by
  rw [flush] at h
  split at h
  · cases h
  · next d _ =>
      cases hfields : d.fields with
      | nil => simp [hfields] at h
      | cons field rest =>
          simp only [hfields, List.isEmpty_cons, Bool.false_eq_true, if_false] at h
          rw [← Option.some.inj h]
          rintro ⟨⟩

theorem fields_ne_nil_of_fire {timer : SaveTimer} {s : Save} (h : s ∈ (a.fire timer).2) :
  s.fields ≠ []
  := by
  rw [fire] at h
  split at h
  · cases h
  · split at h
    · apply fields_ne_nil_of_flush h
    · cases h

/-- Every save that is new carries the draft of its section, which has fields. -/
theorem mem_saves_step {x : AutosaveInput} {s : Save} (h : s ∈ (a.step x).1.saves) :
  s ∈ a.saves ∨ s.id = a.fresh ∧ a.content? s.name = some (s.fields, s.revision) ∧ s.fields ≠ []
    ∧ (a.step x).1.content? s.name = a.content? s.name
  := by
  have hsent {name : String} {after : Autosave} {sent : Option Save} (hsend : a.Sends name after sent)
      (hfields : ∀ s ∈ sent, s.fields ≠ []) (h : s ∈ after.saves) :
      s ∈ a.saves ∨ s.id = a.fresh ∧ a.content? s.name = some (s.fields, s.revision)
        ∧ s.fields ≠ [] ∧ after.content? s.name = a.content? s.name := by
    rw [hsend.saves] at h
    obtain h | h := List.mem_append.mp h
    · left
      apply h
    · right
      have hmem := Option.mem_toList.mp h
      obtain ⟨hid, hname, hcontent⟩ := hsend.save s hmem
      use hid, hname ▸ hcontent, hfields s hmem, hsend.content s.name
  cases x with
  | edit now name field value =>
      left
      rw [step, saves_edit] at h
      apply h
  | flush name =>
      apply hsent (a.sends_flush name) (fun s => fields_ne_nil_of_flush) h
  | fire timer =>
      rw [step] at h ⊢
      split at h
      · left
        apply h
      · next t _ =>
          apply hsent (a.sends_fire t) (fun s => fields_ne_nil_of_fire) h
  | answer save reply =>
      left
      rw [step] at h
      split at h
      · apply h
      · rw [saves_answer] at h
        apply (List.mem_filter.mp h).1

/-- An answer leaves the content of a draft, or ends the draft. -/
theorem content?_step_answer (a : Autosave) (save : Nat)
    (reply : Except RequestError SettingsResponse) (name : String) :
  (a.step (.answer save reply)).1.content? name = a.content? name
    ∨ (a.step (.answer save reply)).1.content? name = none
  := by
  rw [step]
  split
  · left
    rfl
  · rw [content?_answer]
    split
    · right
      rfl
    · left
      rfl

/-- An input edits a field of a section, or leaves the content of its draft, or ends the
draft. -/
theorem value?_step_cases (a : Autosave) (x : AutosaveInput) (name field : String) :
  (∃ now value, x = .edit now name field value)
    ∨ (¬ x.Edits name field ∧ ¬ a.GivesUp x name
      ∧ (a.step x).1.value? name field = a.value? name field)
    ∨ (¬ x.Edits name field ∧ a.GivesUp x name ∧ (a.step x).1.value? name field = none)
  := by
  have hsame (hedits : ¬ x.Edits name field)
      (h : (a.step x).1.content? name = a.content? name) :
      ¬ x.Edits name field ∧ ¬ a.GivesUp x name
        ∧ (a.step x).1.value? name field = a.value? name field := by
    use hedits
    constructor
    · rintro ⟨hthere, hgone⟩
      apply hthere (h ▸ hgone)
    · rw [value?_eq, value?_eq, h]
  cases x with
  | edit now other which value =>
      by_cases hedits : other = name ∧ which = field
      · obtain ⟨rfl, rfl⟩ := hedits
        left
        use now, value
      · right; left
        use hedits
        constructor
        · rintro ⟨hthere, hgone⟩
          rw [step, content?_edit] at hgone
          split at hgone
          · cases hgone
          · apply hthere hgone
        · rw [step, value?_edit, if_neg hedits]
  | flush other =>
      right; left
      apply hsame (by rintro ⟨⟩) ((a.sends_flush other).content name)
  | fire timer =>
      right; left
      apply hsame (by rintro ⟨⟩)
      rw [step]
      split
      · rfl
      · next t _ => apply (a.sends_fire t).content name
  | answer save reply =>
      right
      by_cases hcontent : (a.step (.answer save reply)).1.content? name = a.content? name
      · left
        apply hsame (by rintro ⟨⟩) hcontent
      · right
        use by rintro ⟨⟩
        have hgone := (a.content?_step_answer save reply name).resolve_left hcontent
        constructor
        · constructor
          · intro hnone
            apply hcontent
            rw [hgone, hnone]
          · apply hgone
        · rw [value?_eq, hgone]
          rfl

end Autosave

namespace Journal

/-- The draft of a section has a field of a save, with the value that was sent or with that of a
later edit. -/
def Carries (j : Journal) (s : Save) (field : String) : Prop :=
  ∃ value ∈ j.autosave.value? s.name field, Table.find? field s.fields = some value
    ∨ ∃ e ∈ j.edits, s.id < e.id ∧ e.name = s.name ∧ e.field = field ∧ e.value = value

/-- There is a draft of the section of a save, and it has all fields of the save. -/
def Retains (j : Journal) (s : Save) : Prop :=
  j.autosave.pending? s.name ≠ none ∧ ∀ field, Table.find? field s.fields ≠ none → j.Carries s field

/-- Since a save was sent, the draft of its section has been given up, and the field has not been
edited after that. -/
def Lapsed (debounce : Nat) (inputs : List AutosaveInput) (s : Save) (field : String) : Prop :=
  ∃ before x later, inputs = before ++ x :: later
    ∧ s ∈ (after debounce before).autosave.saves
    ∧ (after debounce before).autosave.GivesUp x s.name
    ∧ ∀ y ∈ later, ¬ y.Edits s.name field

variable {debounce : Nat} {inputs : List AutosaveInput} {s : Save} {field : String}

/-- A field lapses when the draft is given up, and until it is edited. -/
theorem lapsed_append_singleton {x : AutosaveInput} :
  Lapsed debounce (inputs ++ [x]) s field
    ↔ (s ∈ (after debounce inputs).autosave.saves
        ∧ (after debounce inputs).autosave.GivesUp x s.name)
      ∨ (Lapsed debounce inputs s field ∧ ¬ x.Edits s.name field)
  := by
  constructor
  · rintro ⟨before, y, later, heq, hs, hgives, hlater⟩
    obtain rfl | ⟨later, last, rfl⟩ := later.eq_nil_or_concat'
    · left
      obtain ⟨rfl, hlast⟩ := List.append_inj' heq rfl
      obtain rfl := List.singleton_inj.mp hlast
      exact ⟨hs, hgives⟩
    · right
      rw [← List.cons_append, ← List.append_assoc] at heq
      obtain ⟨rfl, hlast⟩ := List.append_inj' heq rfl
      obtain rfl := List.singleton_inj.mp hlast
      constructor
      · use before, y, later, rfl, hs, hgives
        intro z hz
        apply hlater z (List.mem_append_left _ hz)
      · apply hlater x
        simp
  · rintro (⟨hs, hgives⟩ | ⟨⟨before, y, later, rfl, hs, hgives, hlater⟩, hedits⟩)
    · use inputs, x, [], rfl, hs, hgives
      nofun
    · use before, y, later ++ [x]
      constructor
      · simp
      · use hs, hgives
        intro z hz
        obtain hz | hz := List.mem_append.mp hz
        · apply hlater z hz
        · rw [List.mem_singleton.mp hz]
          apply hedits

theorem fresh_le_step (j : Journal) (x : AutosaveInput) :
  j.autosave.fresh ≤ (j.step x).autosave.fresh
  := by
  obtain ⟨now, name, field, value, rfl⟩ | ⟨name, a, sent, hsend, heq, _⟩
    | ⟨s, outcome, _, heq, _⟩ := j.step_cases x
  · simp [step, Autosave.step]
  · rw [heq, hsend.fresh]
    apply Nat.le_add_right
  · rw [heq, Autosave.fresh_answer]

/-- The number of a save of which a field has lapsed has been given out. -/
theorem Lapsed.id_lt (h : Lapsed debounce inputs s field) :
  s.id < (after debounce inputs).autosave.fresh
  := by
  induction inputs using List.reverseRecOn with
  | nil =>
      obtain ⟨before, x, later, heq, _⟩ := h
      simp at heq
  | append_singleton inputs x ih =>
      rw [after_append]
      apply Nat.lt_of_lt_of_le _ (fresh_le_step _ x)
      obtain ⟨hs, _⟩ | ⟨h, _⟩ := lapsed_append_singleton.mp h
      · apply (sound_after debounce inputs).saves s hs
      · apply ih h

/-! ### What becomes of the fields of a save -/

/-- Edits are never forgotten. -/
theorem mem_edits_step {j : Journal} {e : SettingsEdit} (h : e ∈ j.edits) (x : AutosaveInput) :
  e ∈ (j.step x).edits
  := List.mem_append_right _ h

theorem Carries.of_value?_eq {j : Journal} (h : j.Carries s field) {x : AutosaveInput}
    (hvalue : (j.step x).autosave.value? s.name field = j.autosave.value? s.name field) :
  (j.step x).Carries s field
  := by
  obtain ⟨value, hmem, hsent | ⟨e, he, hlater, hedit⟩⟩ := h
  · use value, hvalue ▸ hmem
    left
    apply hsent
  · use value, hvalue ▸ hmem
    right
    use e, mem_edits_step he x, hlater

/-- A field that is edited has the value of that edit. -/
theorem carries_edit {j : Journal} (hs : s.id < j.autosave.fresh) (now : Nat) (value : Json) :
  (j.step (.edit now s.name field value)).Carries s field
  := by
  use value
  constructor
  · rw [Option.mem_def, step, Autosave.step, Autosave.value?_edit]
    simp
  · right
    use ⟨j.autosave.fresh, s.name, field, value⟩, List.mem_cons_self

/-- The fields of a save are missing in the draft once they have lapsed, and only then. -/
theorem carries_of_mem_saves (hs : s ∈ (after debounce inputs).autosave.saves)
    (hfield : Table.find? field s.fields ≠ none) :
  (Lapsed debounce inputs s field →
      (after debounce inputs).autosave.value? s.name field = none)
    ∧ (¬ Lapsed debounce inputs s field → (after debounce inputs).Carries s field)
  := by
  induction inputs using List.reverseRecOn with
  | nil => cases hs
  | append_singleton inputs x ih =>
      rw [after_append] at hs ⊢
      obtain hs | ⟨hid, hdraft, _, hcontent⟩ := Autosave.mem_saves_step hs
      · obtain ⟨hlapsed, hcarries⟩ := ih hs
        have hgiven := (sound_after debounce inputs).saves s hs
        rw [lapsed_append_singleton]
        obtain ⟨now, value, rfl⟩ | ⟨hedits, hgives, hvalue⟩ | ⟨hedits, hgives, hvalue⟩ :=
          (after debounce inputs).autosave.value?_step_cases x s.name field
        · have hedit : (AutosaveInput.edit now s.name field value).Edits s.name field := ⟨rfl, rfl⟩
          have hkept : ¬ (after debounce inputs).autosave.GivesUp (.edit now s.name field value)
              s.name := by
            rintro ⟨_, hgone⟩
            rw [Autosave.step, Autosave.content?_edit, if_pos rfl] at hgone
            cases hgone
          constructor
          · rintro (⟨_, hgives⟩ | ⟨_, hother⟩)
            · apply absurd hgives hkept
            · apply absurd hedit hother
          · intro _
            apply carries_edit hgiven
        · constructor
          · rintro (⟨_, h⟩ | ⟨h, _⟩)
            · apply absurd h hgives
            · apply hvalue.trans (hlapsed h)
          · intro h
            apply (hcarries _).of_value?_eq hvalue
            intro hbefore
            apply h (.inr ⟨hbefore, hedits⟩)
        · constructor
          · intro _
            apply hvalue
          · intro h
            apply absurd (.inl ⟨hs, hgives⟩) h
      · -- the save has just been sent
        constructor
        · intro h
          obtain ⟨hs, _⟩ | ⟨h, _⟩ := lapsed_append_singleton.mp h
          · apply absurd ((sound_after debounce inputs).saves s hs)
            rw [hid]
            apply Nat.lt_irrefl
          · apply absurd h.id_lt
            rw [hid]
            apply Nat.lt_irrefl
        · intro _
          have hvalue : ((after debounce inputs).step x).autosave.value? s.name field
              = Table.find? field s.fields := by
            rw [Autosave.value?_eq]
            change (((after debounce inputs).autosave.step x).1.content? s.name).bind _ = _
            rw [hcontent, hdraft]
            rfl
          obtain ⟨value, hfind⟩ := Option.ne_none_iff_exists'.mp hfield
          use value, hvalue.trans hfind
          left
          apply hfind

/-- Every save under way has fields. -/
theorem fields_ne_nil_of_mem_saves (hs : s ∈ (after debounce inputs).autosave.saves) :
  s.fields ≠ []
  := by
  induction inputs using List.reverseRecOn with
  | nil => nomatch hs
  | append_singleton inputs x ih =>
      rw [after_append] at hs
      obtain hs | ⟨_, _, hfields, _⟩ := Autosave.mem_saves_step hs
      · apply ih hs
      · apply hfields

/-- The draft has all fields of a save under way when none of them has lapsed. -/
theorem retains_iff (hs : s ∈ (after debounce inputs).autosave.saves) :
  (after debounce inputs).Retains s
    ↔ ∀ field, Table.find? field s.fields ≠ none → ¬ Lapsed debounce inputs s field
  := by
  constructor
  · rintro ⟨_, hcarries⟩ field hfield hlapsed
    obtain ⟨value, hvalue, _⟩ := hcarries field hfield
    rw [(carries_of_mem_saves hs hfield).1 hlapsed] at hvalue
    cases hvalue
  · intro h
    have hcarries (field : String) (hfield : Table.find? field s.fields ≠ none) :
        (after debounce inputs).Carries s field :=
      (carries_of_mem_saves hs hfield).2 (h field hfield)
    constructor
    · obtain ⟨⟨field, sent⟩, rest, hfields⟩ :=
        List.exists_cons_of_ne_nil (fields_ne_nil_of_mem_saves hs)
      obtain ⟨value, hvalue, _⟩ := hcarries field (by simp [hfields, Table.find?])
      intro hnone
      rw [Autosave.value?, hnone] at hvalue
      cases hvalue
    · apply hcarries

/-- A failure leaves what the draft has. -/
theorem retains_step_iff {j : Journal} {x : AutosaveInput} (h : s ∈ j.autosave.fails x) :
  (j.step x).Retains s ↔ j.Retains s
  := by
  have hedits : (j.step x).edits = j.edits := by
    cases x with
    | answer save reply => rfl
    | edit | flush | fire => nomatch h
  have hcontent : (j.step x).autosave.content? s.name = j.autosave.content? s.name :=
    Autosave.content?_step_of_fails h s.name
  have hpending (a : Autosave) : a.pending? s.name = (a.content? s.name).map Prod.fst := by
    rw [Autosave.pending?, Autosave.content?]
    cases a.draft? s.name <;> rfl
  simp only [Retains, Carries, hedits, Autosave.value?, hpending, hcontent]

/-- Whenever it is published that a save has failed, the draft of the section still has all fields
of that save, unless the draft was given up since the save was sent, and some field of the save
has not been edited after that. -/
theorem retains_iff_not_lapsed (debounce : Nat) (inputs : List AutosaveInput) (x : AutosaveInput)
    (name reason : String)
    (h : .publish (.settingsFailed name reason) ∈ ((after debounce inputs).autosave.step x).2.2) :
  ∃ s ∈ (after debounce inputs).autosave.fails x, s.name = name
    ∧ ((after debounce (inputs ++ [x])).Retains s
      ↔ ∀ field, Table.find? field s.fields ≠ none → ¬ Lapsed debounce inputs s field)
  := by
  obtain ⟨s, hfails, hname⟩ := Autosave.exists_fails_of_settingsFailed h
  use s, hfails, hname
  rw [after_append, retains_step_iff hfails]
  apply retains_iff (Autosave.mem_saves_of_fails hfails)

/-- A section is closed twice while it has one draft, and the first save is confirmed. -/
def closedTwice : List AutosaveInput :=
  [.edit 0 "n" "a" (.int 1), .flush "n", .flush "n", .answer 1 (.ok ⟨"success", some "A", none⟩)]

/-- The second save is refused. -/
def refusal : AutosaveInput := .answer 2 (.ok ⟨"error", none, some "disk full"⟩)

/-- The failure is published, and what the save carried has lapsed. -/
theorem retains_iff_not_lapsed_closedTwice :
  .publish (.settingsFailed "n" "settings save for 'n' not confirmed: disk full")
      ∈ ((after 1000 closedTwice).autosave.step refusal).2.2
    ∧ ∃ s ∈ (after 1000 closedTwice).autosave.fails refusal, s.name = "n"
      ∧ ∃ field, Table.find? field s.fields ≠ none ∧ Lapsed 1000 closedTwice s field
  := by
  have hpublished : .publish (.settingsFailed "n" "settings save for 'n' not confirmed: disk full")
      ∈ ((after 1000 closedTwice).autosave.step refusal).2.2 := by decide +kernel
  have hnone : (after 1000 (closedTwice ++ [refusal])).autosave.pending? "n" = none := by
    decide +kernel
  obtain ⟨s, hfails, hname, hiff⟩ := retains_iff_not_lapsed _ _ _ _ _ hpublished
  use hpublished, s, hfails, hname
  by_contra hnever
  have hretains := hiff.mpr (by simpa using hnever)
  apply hretains.1
  rw [hname, hnone]

/-- The failure is published although there is no draft any more. -/
theorem not_retains_closedTwice :
  .publish (.settingsFailed "n" "settings save for 'n' not confirmed: disk full")
      ∈ ((after 1000 closedTwice).autosave.step refusal).2.2
    ∧ (after 1000 closedTwice).autosave.fails refusal = some ⟨2, "n", [("a", .int 1)], 1⟩
    ∧ ¬ (after 1000 (closedTwice ++ [refusal])).Retains ⟨2, "n", [("a", .int 1)], 1⟩
  := by
  constructor
  · decide +kernel
  constructor
  · decide +kernel
  · rintro ⟨hpending, _⟩
    apply hpending
    decide +kernel

end Journal

end Greenhouse
