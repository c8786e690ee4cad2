import Mathlib.Data.List.Induction
import Mathlib.Data.List.MinMax
import Greenhouse.Proofs.Autosave.Step

/-!
# What becomes of edits

A `Journal` goes along with autosave and keeps what autosave itself forgets: every edit that
was ever made, and every save that the backend confirmed.  An edit is kept when its value, or
that of a later edit of the same field, is still in the draft or was in a confirmed save.

Edits are not always kept.  The revisions of a draft begin anew when the draft has been given
up, so an old save can have the revision of a new draft, and its confirmation then takes the
new edits away.  The main statement is that edits get lost in this way and in no other.
-/

namespace Greenhouse

/-- An edit of a field.  The numbers of edits and saves tell which came first. -/
structure SettingsEdit where
  id : Nat
  name : String
  field : String
  value : Json
deriving DecidableEq

/-- Autosave together with what has happened to it. -/
structure Journal where
  autosave : Autosave
  edits : List SettingsEdit
  /-- The saves that the backend confirmed. -/
  confirmed : List Save
deriving DecidableEq

/-- The edit that an input makes. -/
def AutosaveInput.edit? (id : Nat) : AutosaveInput → Option SettingsEdit
  | .edit _ name field value => some ⟨id, name, field, value⟩
  | .flush _ | .fire _ | .answer _ _ => none

namespace Journal

/-- One more input. -/
def step (j : Journal) (x : AutosaveInput) : Journal where
  autosave := (j.autosave.step x).1
  edits := (x.edit? j.autosave.fresh).toList ++ j.edits
  confirmed := (j.autosave.confirms x).toList ++ j.confirmed

/-- The journal after a run of inputs, from nothing. -/
def after (debounce : Nat) (inputs : List AutosaveInput) : Journal :=
  inputs.foldl step ⟨.ofDebounce debounce, [], []⟩

theorem after_append (debounce : Nat) (inputs : List AutosaveInput) (x : AutosaveInput) :
  after debounce (inputs ++ [x]) = (after debounce inputs).step x
  := by
  rw [after, List.foldl_append]
  rfl

/-- An edit is kept: it, or a later edit of the same field, is in the draft, or was made
before a confirmed save was sent, which carried its value. -/
def Kept (j : Journal) (e : SettingsEdit) : Prop :=
  ∃ e' ∈ j.edits, e.id ≤ e'.id ∧ e'.name = e.name ∧ e'.field = e.field ∧
    (j.autosave.value? e.name e.field = some e'.value ∨
      ∃ s ∈ j.confirmed,
        e'.id ≤ s.id ∧ s.name = e.name ∧ Table.find? e.field s.fields = some e'.value)

instance (j : Journal) (e : SettingsEdit) : Decidable (j.Kept e) :=
  inferInstanceAs (Decidable (∃ _ ∈ _, _))

/-- Every edit is kept. -/
def Keeps (j : Journal) : Prop := ∀ e ∈ j.edits, j.Kept e

instance (j : Journal) : Decidable j.Keeps := inferInstanceAs (Decidable (∀ _ ∈ _, _))

/-- The section of a save has not been edited since the save was sent. -/
def Quiet (j : Journal) (s : Save) : Prop := ∀ e ∈ j.edits, e.name = s.name → e.id ≤ s.id

/-- An input confirms a save that has the revision of the draft, although the section has been
edited since the save was sent. -/
def Overtakes (j : Journal) (x : AutosaveInput) : Prop :=
  ∃ s ∈ j.autosave.confirms x,
    (j.autosave.content? s.name).map Prod.snd = some s.revision ∧ ¬ j.Quiet s

/-! ### What holds of every journal -/

/-- The numbers of edits and saves have been given out, and a save whose section is quiet
carries the draft, or has ended it. -/
structure Sound (j : Journal) : Prop where
  edits : ∀ e ∈ j.edits, e.id < j.autosave.fresh
  saves : ∀ s ∈ j.autosave.saves, s.id < j.autosave.fresh
  confirmed : ∀ s ∈ j.confirmed, s.id < j.autosave.fresh
  carried : ∀ s ∈ j.autosave.saves, j.Quiet s →
    ∀ content ∈ j.autosave.content? s.name, content = (s.fields, s.revision)
  ended : ∀ s ∈ j.confirmed, j.Quiet s → j.autosave.content? s.name = none

variable {j : Journal}

theorem sound_nil (debounce : Nat) :
  Sound (after debounce [])
  := by
  constructor <;> simp [after, Autosave.ofDebounce]

/-- The section that is edited is not quiet any more. -/
theorem Quiet.of_edit {s : Save} (hs : s.id < j.autosave.fresh) {now : Nat} {name field : String}
    {value : Json} (h : (j.step (.edit now name field value)).Quiet s) :
  name ≠ s.name ∧ j.Quiet s
  := by
  constructor
  · intro hname
    have hle := h ⟨j.autosave.fresh, name, field, value⟩ List.mem_cons_self hname
    apply absurd hs (Nat.not_lt.mpr hle)
  · intro e he
    apply h e (List.mem_cons_of_mem _ he)

theorem Sound.edit (h : j.Sound) (now : Nat) (name field : String) (value : Json) :
  Sound (j.step (.edit now name field value))
  := by
  have hcontent {other : String} (hne : name ≠ other) :
      (j.step (.edit now name field value)).autosave.content? other = j.autosave.content? other :=
    (j.autosave.content?_edit now name field value other).trans (if_neg hne)
  have hfresh : (j.step (.edit now name field value)).autosave.fresh = j.autosave.fresh + 1 :=
    j.autosave.fresh_edit now name field value
  have hsaves : (j.step (.edit now name field value)).autosave.saves = j.autosave.saves :=
    j.autosave.saves_edit now name field value
  constructor
  · intro e he
    rw [hfresh]
    obtain rfl | he := List.mem_cons.mp he
    · apply Nat.lt_succ_self
    · apply Nat.lt_succ_of_lt (h.edits e he)
  · intro s hs
    rw [hfresh]
    rw [hsaves] at hs
    apply Nat.lt_succ_of_lt (h.saves s hs)
  · intro s hs
    rw [hfresh]
    apply Nat.lt_succ_of_lt (h.confirmed s hs)
  · intro s hs hquiet
    rw [hsaves] at hs
    obtain ⟨hne, hquiet⟩ := hquiet.of_edit (h.saves s hs)
    rw [hcontent hne]
    apply h.carried s hs hquiet
  · intro s hs hquiet
    obtain ⟨hne, hquiet⟩ := hquiet.of_edit (h.confirmed s hs)
    rw [hcontent hne]
    apply h.ended s hs hquiet

/-- What is sent carries the draft. -/
theorem Sound.send (h : j.Sound) {name : String} {a : Autosave} {sent : Option Save}
    (hsend : j.autosave.Sends name a sent) :
  Sound { j with autosave := a }
  := by
  have hfresh : j.autosave.fresh ≤ a.fresh := by
    rw [hsend.fresh]
    apply Nat.le_add_right
  have hold {s : Save} (hs : s ∈ a.saves) : s ∈ j.autosave.saves ∨ s ∈ sent := by
    rw [hsend.saves] at hs
    simpa using hs
  constructor
  · intro e he
    apply Nat.lt_of_lt_of_le (h.edits e he) hfresh
  · intro s hs
    obtain hs | hs := hold hs
    · apply Nat.lt_of_lt_of_le (h.saves s hs) hfresh
    · obtain ⟨hid, _⟩ := hsend.save s hs
      obtain rfl := Option.mem_def.mp hs
      simp [hsend.fresh, hid]
  · intro s hs
    apply Nat.lt_of_lt_of_le (h.confirmed s hs) hfresh
  · intro s hs hquiet
    simp only [hsend.content]
    obtain hs | hs := hold hs
    · apply h.carried s hs hquiet
    · obtain ⟨_, hname, hcontent⟩ := hsend.save s hs
      rw [hname, hcontent]
      intro content hmem
      apply (Option.mem_some.mp hmem).symm
  · intro s hs hquiet
    simp only [hsend.content]
    apply h.ended s hs hquiet

/-- A save that is confirmed while its section is quiet ends the draft. -/
theorem Sound.answer (h : j.Sound) {s : Save} (hs : s ∈ j.autosave.saves)
    (outcome : Except SaveError String) :
  Sound ⟨(j.autosave.answer s outcome).1, j.edits,
    (if outcome.isOk then [s] else []) ++ j.confirmed⟩
  := by
  have hold {s' : Save} (hs' : s' ∈ (j.autosave.answer s outcome).1.saves) :
      s' ∈ j.autosave.saves := by
    rw [Autosave.saves_answer] at hs'
    apply (List.mem_filter.mp hs').1
  have hconfirmed {s' : Save} (hs' : s' ∈ (if outcome.isOk then [s] else []) ++ j.confirmed) :
      (s' = s ∧ outcome.isOk) ∨ s' ∈ j.confirmed := by
    obtain hs' | hs' := List.mem_append.mp hs'
    · split at hs'
      · next hok => apply Or.inl ⟨List.mem_singleton.mp hs', hok⟩
      · nomatch hs'
    · apply Or.inr hs'
  constructor
  · simpa using h.edits
  · intro s' hs'
    simp only [Autosave.fresh_answer]
    apply h.saves s' (hold hs')
  · intro s' hs'
    simp only [Autosave.fresh_answer]
    obtain ⟨rfl, _⟩ | hs' := hconfirmed hs'
    · apply h.saves s' hs
    · apply h.confirmed s' hs'
  · intro s' hs' hquiet content hcontent
    rw [Autosave.content?_answer] at hcontent
    split at hcontent
    · nomatch hcontent
    · apply h.carried s' (hold hs') hquiet content hcontent
  · intro s' hs' hquiet
    rw [Autosave.content?_answer]
    split
    · rfl
    · next hdiffers =>
        obtain ⟨rfl, hok⟩ | hs' := hconfirmed hs'
        · cases hcontent : j.autosave.content? s'.name with
          | none => rfl
          | some content =>
              have hcarried := h.carried s' hs hquiet content hcontent
              apply absurd _ hdiffers
              rw [hcontent, hcarried]
              use rfl, hok
              rfl
        · apply h.ended s' hs' hquiet

/-- An input is an edit, or something is sent, or a save is answered. -/
theorem step_cases (j : Journal) (x : AutosaveInput) :
  (∃ now name field value, x = .edit now name field value)
    ∨ (∃ name a sent, j.autosave.Sends name a sent ∧ j.step x = { j with autosave := a }
      ∧ j.autosave.confirms x = none)
    ∨ ∃ s outcome, s ∈ j.autosave.saves
      ∧ j.step x = ⟨(j.autosave.answer s outcome).1, j.edits,
        (if outcome.isOk then [s] else []) ++ j.confirmed⟩
      ∧ j.autosave.confirms x = if outcome.isOk then some s else none
  := by
  have hnothing : j.autosave.Sends "" j.autosave none := by constructor <;> simp
  cases x with
  | edit now name field value =>
      left
      use now, name, field, value
  | flush name =>
      right; left
      use name, (j.autosave.flush name).1, (j.autosave.flush name).2, j.autosave.sends_flush name
      constructor <;> rfl
  | fire timer =>
      right; left
      cases ht : j.autosave.timers.find? fun t => t.id = timer with
      | none =>
          use "", j.autosave, none, hnothing
          simp [step, Autosave.step, Autosave.confirms, AutosaveInput.edit?, ht]
      | some t =>
          use t.name, (j.autosave.fire t).1, (j.autosave.fire t).2, j.autosave.sends_fire t
          simp [step, Autosave.step, Autosave.confirms, AutosaveInput.edit?, ht]
  | answer save reply =>
      cases hs : j.autosave.saves.find? fun s => s.id = save with
      | none =>
          right; left
          use "", j.autosave, none, hnothing
          simp [step, Autosave.step, Autosave.confirms, AutosaveInput.edit?, hs]
      | some s =>
          right; right
          use s, s.outcome reply, List.mem_of_find?_eq_some hs
          cases hok : (s.outcome reply).isOk with
          | true =>
              simp [step, Autosave.step, Autosave.confirms, AutosaveInput.edit?, Option.filter, hs,
                hok]
          | false =>
              simp [step, Autosave.step, Autosave.confirms, AutosaveInput.edit?, hs, hok]

theorem Sound.step (h : j.Sound) (x : AutosaveInput) :
  Sound (j.step x)
  := by
  obtain ⟨now, name, field, value, rfl⟩ | ⟨name, a, sent, hsend, heq, _⟩
    | ⟨s, outcome, hs, heq, _⟩ := j.step_cases x
  · apply h.edit
  · rw [heq]
    apply h.send hsend
  · rw [heq]
    apply h.answer hs

theorem sound_after (debounce : Nat) (inputs : List AutosaveInput) :
  Sound (after debounce inputs)
  := by
  induction inputs using List.reverseRecOn with
  | nil => apply sound_nil
  | append_singleton inputs x ih =>
      rw [after_append]
      apply ih.step

/-! ### Keeping edits -/

theorem keeps_edit (h : j.Sound) (hk : j.Keeps) (now : Nat) (name field : String) (value : Json) :
  Keeps (j.step (.edit now name field value))
  := by
  have hentry (other which : String) :
      (j.step (.edit now name field value)).autosave.value? other which
        = if name = other ∧ field = which then some value else j.autosave.value? other which :=
    j.autosave.value?_edit now name field value other which
  have hedits : (j.step (.edit now name field value)).edits
      = ⟨j.autosave.fresh, name, field, value⟩ :: j.edits := rfl
  intro e he
  by_cases hsame : name = e.name ∧ field = e.field
  · obtain ⟨hname, hfield⟩ := hsame
    use ⟨j.autosave.fresh, name, field, value⟩, List.mem_cons_self
    constructor
    · rw [hedits] at he
      obtain rfl | he := List.mem_cons.mp he
      · apply Nat.le_refl
      · apply Nat.le_of_lt (h.edits e he)
    · use hname, hfield
      left
      rw [hentry, if_pos ⟨hname, hfield⟩]
  · rw [hedits] at he
    obtain rfl | he := List.mem_cons.mp he
    · apply absurd ⟨rfl, rfl⟩ hsame
    · obtain ⟨e', he', hle, hname, hfield, hvalue⟩ := hk e he
      use e', List.mem_cons_of_mem _ he', hle, hname, hfield
      rw [hentry, if_neg hsame]
      apply hvalue

theorem keeps_send (hk : j.Keeps) {name : String} {a : Autosave} {sent : Option Save}
    (hsend : j.autosave.Sends name a sent) :
  Keeps { j with autosave := a }
  := by
  intro e he
  obtain ⟨e', he', hle, hname, hfield, hvalue⟩ := hk e he
  use e', he', hle, hname, hfield
  rw [Autosave.value?_eq] at hvalue ⊢
  rw [hsend.content]
  apply hvalue

/-- An answer keeps every edit, unless it gives up edits that came after the save. -/
theorem keeps_answer (h : j.Sound) (hk : j.Keeps) {s : Save} (hs : s ∈ j.autosave.saves)
    {outcome : Except SaveError String}
    (hquiet : outcome.isOk → (j.autosave.content? s.name).map Prod.snd = some s.revision →
      j.Quiet s) :
  Keeps ⟨(j.autosave.answer s outcome).1, j.edits,
    (if outcome.isOk then [s] else []) ++ j.confirmed⟩
  := by
  intro e he
  obtain ⟨e', he', hle, hname, hfield, hvalue⟩ := hk e he
  use e', he', hle, hname, hfield
  obtain hentry | ⟨s', hs', hsent⟩ := hvalue
  · by_cases hdrop : s.name = e.name ∧ outcome.isOk
        ∧ (j.autosave.content? s.name).map Prod.snd = some s.revision
    · -- the draft is given up, and the save carried it
      obtain ⟨hsection, hok, hrevision⟩ := hdrop
      have hquiet := hquiet hok hrevision
      right
      use s
      rw [Autosave.value?_eq, ← hsection] at hentry
      obtain ⟨content, hcontent, hfind⟩ := Option.bind_eq_some_iff.mp hentry
      rw [h.carried s hs hquiet content hcontent] at hfind
      constructor
      · simp [hok]
      · use hquiet e' he' (hname.trans hsection.symm), hsection, hfind
    · left
      rw [Autosave.value?_eq, Autosave.content?_answer, if_neg hdrop, ← Autosave.value?_eq]
      apply hentry
  · right
    obtain ⟨hsent, hsection, hfind⟩ := hsent
    use s', List.mem_append_right _ hs', hsent, hsection, hfind

theorem keeps_step (h : j.Sound) (hk : j.Keeps) {x : AutosaveInput} (hx : ¬ j.Overtakes x) :
  Keeps (j.step x)
  := by
  obtain ⟨now, name, field, value, rfl⟩ | ⟨name, a, sent, hsend, heq, _⟩
    | ⟨s, outcome, hs, heq, hconfirms⟩ := j.step_cases x
  · apply keeps_edit h hk
  · rw [heq]
    apply keeps_send hk hsend
  · rw [heq]
    apply keeps_answer h hk hs
    intro hok hrevision
    by_contra hedited
    apply hx
    use s
    rw [hconfirms, if_pos hok]
    use rfl, hrevision

/-! ### Losing edits -/

theorem exists_last_edit {name : String} (h : ∃ e ∈ j.edits, e.name = name) :
  ∃ e ∈ j.edits, e.name = name ∧ ∀ e' ∈ j.edits, e'.name = name → e'.id ≤ e.id
  := by
  obtain ⟨e, he, hname⟩ := h
  have hmem {e : SettingsEdit} (he : e ∈ j.edits) (hname : e.name = name) :
      e ∈ j.edits.filter fun e => e.name = name := by
    apply List.mem_filter.mpr ⟨he, decide_eq_true hname⟩
  cases hmax : (j.edits.filter fun e => e.name = name).argmax SettingsEdit.id with
  | none =>
      rw [List.argmax_eq_none] at hmax
      apply absurd (hmem he hname)
      rw [hmax]
      apply List.not_mem_nil
  | some last =>
      obtain ⟨hlast, hlastName⟩ := List.mem_filter.mp (List.argmax_mem hmax)
      use last, hlast, of_decide_eq_true hlastName
      intro e' he' hname'
      apply List.le_of_mem_argmax (hmem he' hname') hmax

/-- The last edit of a section is lost when its draft is given up for an older save. -/
theorem not_keeps_answer (h : j.Sound) {s : Save} {outcome : Except SaveError String}
    (hok : outcome.isOk) (hrevision : (j.autosave.content? s.name).map Prod.snd = some s.revision)
    (hedited : ¬ j.Quiet s) :
  ¬ Keeps ⟨(j.autosave.answer s outcome).1, j.edits,
    (if outcome.isOk then [s] else []) ++ j.confirmed⟩
  := by
  intro hk
  have hsection : ∃ e ∈ j.edits, e.name = s.name := by
    by_contra hnone
    apply hedited
    intro e he hname
    apply absurd ⟨e, he, hname⟩ hnone
  obtain ⟨last, hlast, hname, hmax⟩ := exists_last_edit hsection
  have hnewer : s.id < last.id := by
    by_contra hle
    apply hedited
    intro e he hsame
    apply Nat.le_trans (hmax e he hsame) (Nat.not_lt.mp hle)
  obtain ⟨e', he', hle, hname', _, hentry | ⟨s', hs', hsent, hsection', _⟩⟩ := hk last hlast
  · rw [Autosave.value?_eq, Autosave.content?_answer, if_pos ⟨hname.symm, hok, hrevision⟩]
      at hentry
    nomatch hentry
  · rw [if_pos hok] at hs'
    obtain rfl | hs' := List.mem_cons.mp hs'
    · apply Nat.not_le.mpr hnewer (Nat.le_trans hle hsent)
    · -- an earlier confirmation would have ended the draft
      have hquiet : j.Quiet s' := by
        intro e he hsame
        apply Nat.le_trans (hmax e he (hsame.trans (hsection'.trans hname)))
        apply Nat.le_trans hle hsent
      rw [← hname, ← hsection', h.ended s' hs' hquiet] at hrevision
      nomatch hrevision

theorem not_keeps_of_overtakes (h : j.Sound) {x : AutosaveInput} (hx : j.Overtakes x) :
  ¬ Keeps (j.step x)
  := by
  obtain ⟨s, hs, hrevision, hedited⟩ := hx
  obtain ⟨now, name, field, value, rfl⟩ | ⟨name, a, sent, hsend, heq, hnone⟩
    | ⟨s', outcome, hs', heq, hconfirms⟩ := j.step_cases x
  · nomatch hs
  · rw [hnone] at hs
    nomatch hs
  · rw [hconfirms] at hs
    split at hs
    · next hok =>
        obtain rfl := Option.mem_some.mp hs
        rw [heq]
        apply not_keeps_answer h hok hrevision hedited
    · nomatch hs

/-- In every run, the edits are kept all the time exactly when no confirmation overtakes edits
of its section. -/
theorem keeps_iff_not_overtakes (debounce : Nat) (inputs : List AutosaveInput) :
  (∀ earlier, earlier <+: inputs → (after debounce earlier).Keeps)
    ↔ ∀ earlier x, earlier ++ [x] <+: inputs → ¬ (after debounce earlier).Overtakes x
  := by
  constructor
  · intro hkeeps earlier x hbegins hx
    apply not_keeps_of_overtakes (sound_after debounce earlier) hx
    rw [← after_append]
    apply hkeeps _ hbegins
  · intro hnever earlier hbegins
    induction earlier using List.reverseRecOn with
    | nil => nofun
    | append_singleton earlier x ih =>
        rw [after_append]
        apply keeps_step (sound_after debounce earlier)
        · apply ih
          apply List.IsPrefix.trans _ hbegins
          apply List.prefix_append
        · apply hnever earlier x hbegins

/-- A section is closed twice while it has one draft, and edited again when the first save
has been confirmed.  Then the second save is confirmed. -/
def overlappingSaves : List AutosaveInput :=
  [.edit 0 "n" "a" (.int 1), .flush "n", .flush "n", .answer 1 (.ok ⟨"success", some "A", none⟩),
    .edit 351 "n" "b" (.int 2), .answer 2 (.ok ⟨"success", some "B", none⟩)]

/-- The new edit has the revision that the second save has, and is gone when that is
confirmed: it is not in the draft, and no confirmed save carried its field. -/
theorem not_keeps_overlappingSaves :
  ¬ (after 1000 overlappingSaves).Keeps
    ∧ ⟨3, "n", "b", .int 2⟩ ∈ (after 1000 overlappingSaves).edits
    ∧ (after 1000 overlappingSaves).autosave.draft? "n" = none
    ∧ ∀ s ∈ (after 1000 overlappingSaves).confirmed, Table.find? "b" s.fields = none
  := by
  decide +kernel

end Journal

end Greenhouse
