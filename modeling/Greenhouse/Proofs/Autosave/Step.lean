import Greenhouse.Control.Autosave
import Greenhouse.Proofs.Table

/-!
# Steps of autosave

`Autosave.step` gathers the operations: the operator edits and closes, timers run down, and
the backend answers saves in any order.  What counts of a draft is its content, the fields
and the revision; the operations are described by what they do to the contents and to the
saves under way.
-/

namespace Greenhouse

/-- After an entry is put into a map, its key has the value, and the others have what they
had. -/
theorem Table.find?_putEntry {α : Type} (key : String) (value : α) (entries : List (String × α))
    (other : String) :
  Table.find? other (Json.putEntry key value entries)
    = if key = other then some value else Table.find? other entries
  := by
  induction entries with
  | nil => simp [Json.putEntry, Table.find?]
  | cons entry rest ih =>
      obtain ⟨k, v⟩ := entry
      rw [Json.putEntry]
      by_cases hk : k = key
      · subst hk
        by_cases ho : k = other <;> simp [Table.find?, ho]
      · rw [if_neg hk, Table.find?, Table.find?, ih]
        by_cases ho : key = other
        · have hko : ¬ k = other := fun h => hk (h.trans ho.symm)
          simp only [if_pos ho, if_neg hko]
        · simp only [if_neg ho]

/-- Something that happens to the settings that are being edited. -/
inductive AutosaveInput where
  | edit (now : Nat) (name field : String) (value : Json)
  /-- A section is closed. -/
  | flush (name : String)
  /-- The timer with this number has run down. -/
  | fire (timer : Nat)
  /-- The save with this number is answered. -/
  | answer (save : Nat) (reply : Except RequestError SettingsResponse)

namespace Autosave

/-- What happens on an input: the save that is sent, if there is one, and the effects.
Nothing happens when there is no such timer or save. -/
def step (a : Autosave) : AutosaveInput → Autosave × Option Save × List Effect
  | .edit now name field value => (a.edit now name field value, none, [])
  | .flush name =>
    let (a, sent) := a.flush name
    (a, sent, [])
  | .fire timer =>
    match a.timers.find? fun t => t.id = timer with
    | none => (a, none, [])
    | some t =>
      let (a, sent) := a.fire t
      (a, sent, [])
  | .answer save reply =>
    match a.saves.find? fun s => s.id = save with
    | none => (a, none, [])
    | some s =>
      let (a, effects) := a.answer s (s.outcome reply)
      (a, none, effects)

/-- The save that an input confirms. -/
def confirms (a : Autosave) : AutosaveInput → Option Save
  | .answer save reply =>
    (a.saves.find? fun s => s.id = save).filter fun s => (s.outcome reply).isOk
  | .edit _ _ _ _ | .flush _ | .fire _ => none

/-- The fields and the revision of a draft. -/
def content? (a : Autosave) (name : String) : Option (SettingsFields × Nat) :=
  (a.draft? name).map fun d => (d.fields, d.revision)

/-- The value that the draft of a section gives to a field. -/
def value? (a : Autosave) (name field : String) : Option Json :=
  (a.pending? name).bind (Table.find? field)

section
variable (a : Autosave)

/-! ### Drafts -/

theorem value?_eq (name field : String) :
  a.value? name field = (a.content? name).bind fun content => Table.find? field content.1
  := by
  rw [value?, pending?, content?]
  cases a.draft? name <;> rfl

@[simp]
theorem drafts_cancel (timer : Option Nat) :
  (a.cancel timer).drafts = a.drafts
  := by
  cases timer <;> rfl

@[simp]
theorem saves_cancel (timer : Option Nat) :
  (a.cancel timer).saves = a.saves
  := by
  cases timer <;> rfl

@[simp]
theorem fresh_cancel (timer : Option Nat) :
  (a.cancel timer).fresh = a.fresh
  := by
  cases timer <;> rfl

@[simp]
theorem content?_cancel (timer : Option Nat) (name : String) :
  (a.cancel timer).content? name = a.content? name
  := by
  simp [content?, draft?]

theorem content?_putDraft (name : String) (d : Draft) (other : String) :
  (a.putDraft name d).content? other
    = if name = other then some (d.fields, d.revision) else a.content? other
  := by
  rw [content?, draft?, putDraft, Table.find?_put]
  split <;> rfl

/-- A draft with the same content takes the place of a draft. -/
theorem content?_putDraft_of_eq {name : String} {d : Draft}
    (h : a.content? name = some (d.fields, d.revision)) (other : String) :
  (a.putDraft name d).content? other = a.content? other
  := by
  rw [content?_putDraft]
  split
  · next hname => rw [← hname, h]
  · rfl

/-! ### Edits -/

/-- An edit gives the field its value, and the draft one more revision. -/
theorem content?_edit (now : Nat) (name field : String) (value : Json) (other : String) :
  (a.edit now name field value).content? other
    = if name = other then
        some (Json.putEntry field value (((a.content? name).map Prod.fst).getD []),
          ((a.content? name).map Prod.snd).getD 0 + 1)
      else a.content? other
  := by
  have hcontent := (a.cancel ((a.draft? name).getD ⟨[], 0, none⟩).timer).content?_putDraft name
    ⟨Json.putEntry field value ((a.draft? name).getD ⟨[], 0, none⟩).fields,
      ((a.draft? name).getD ⟨[], 0, none⟩).revision + 1, some a.fresh⟩ other
  rw [content?_cancel] at hcontent
  simp only [edit, fresh_cancel]
  apply hcontent.trans
  simp only [content?]
  cases a.draft? name <;> rfl

/-- A field has the value that is edited into it, and the others have what they had. -/
theorem value?_edit (now : Nat) (name field : String) (value : Json) (other which : String) :
  (a.edit now name field value).value? other which
    = if name = other ∧ field = which then some value else a.value? other which
  := by
  rw [value?_eq, value?_eq, content?_edit]
  by_cases hname : name = other
  · subst hname
    rw [if_pos rfl, Option.bind_some, Table.find?_putEntry]
    by_cases hfield : field = which
    · simp [hfield]
    · cases hcontent : a.content? name <;> simp [hfield]
  · simp [hname]

@[simp]
theorem saves_edit (now : Nat) (name field : String) (value : Json) :
  (a.edit now name field value).saves = a.saves
  := by
  simp [edit, putDraft]

@[simp]
theorem fresh_edit (now : Nat) (name field : String) (value : Json) :
  (a.edit now name field value).fresh = a.fresh + 1
  := by
  simp [edit]

/-! ### Answers -/

/-- The draft of a save is given up when the save is confirmed and the draft has the revision
that was sent. -/
theorem answer_fst (s : Save) (outcome : Except SaveError String) :
  (a.answer s outcome).1
    = { a with
        drafts :=
          if outcome.isOk && (a.draft? s.name).any fun d => d.revision == s.revision then
            Table.erase s.name a.drafts
          else a.drafts
        saves := a.saves.filter fun other => other.id != s.id }
  := by
  cases outcome with
  | error e => rfl
  | ok bcc =>
      have hdraft : Autosave.draft? { a with saves := a.saves.filter fun other => other.id != s.id }
          s.name = a.draft? s.name := rfl
      simp only [answer, hdraft]
      by_cases hrevision : ((a.draft? s.name).any fun d => d.revision == s.revision) = true
      · simp [hrevision, Except.isOk, Except.toBool]
      · simp [hrevision]

theorem content?_answer (s : Save) (outcome : Except SaveError String) (other : String) :
  (a.answer s outcome).1.content? other
    = if s.name = other ∧ outcome.isOk ∧ (a.content? s.name).map Prod.snd = some s.revision then
        none
      else a.content? other
  := by
  have hany : ((a.draft? s.name).any fun d => d.revision == s.revision) = true
      ↔ (a.content? s.name).map Prod.snd = some s.revision := by
    rw [content?]
    cases a.draft? s.name <;> simp
  rw [answer_fst, content?, draft?]
  by_cases hconfirmed : outcome.isOk = true ∧ (a.content? s.name).map Prod.snd = some s.revision
  · rw [if_pos ((Bool.and_eq_true _ _).mpr ⟨hconfirmed.1, hany.mpr hconfirmed.2⟩)]
    by_cases hname : s.name = other
    · rw [if_pos ⟨hname, hconfirmed⟩, Table.find?_erase, if_pos hname]
      rfl
    · rw [Table.find?_erase, if_neg hname, if_neg fun h => hname h.1]
      rfl
  · rw [if_neg, if_neg]
    · rfl
    · intro h
      apply hconfirmed h.2
    · intro h
      obtain ⟨hok, hrevision⟩ := (Bool.and_eq_true _ _).mp h
      apply hconfirmed ⟨hok, hany.mp hrevision⟩

@[simp]
theorem saves_answer (s : Save) (outcome : Except SaveError String) :
  (a.answer s outcome).1.saves = a.saves.filter fun other => other.id != s.id
  := by
  rw [answer_fst]

@[simp]
theorem fresh_answer (s : Save) (outcome : Except SaveError String) :
  (a.answer s outcome).1.fresh = a.fresh
  := by
  rw [answer_fst]

end

/-! ### Sending -/

/-- A section has been sent, if there was something to send: the contents stay, and the save
carries the content of its section. -/
structure Sends (a : Autosave) (name : String) (after : Autosave) (sent : Option Save) : Prop where
  content : ∀ other, after.content? other = a.content? other
  saves : after.saves = a.saves ++ sent.toList
  fresh : after.fresh = a.fresh + sent.toList.length
  save : ∀ s ∈ sent, s.id = a.fresh ∧ s.name = name ∧ a.content? name = some (s.fields, s.revision)

theorem sends_flush (a : Autosave) (name : String) :
  Sends a name (a.flush name).1 (a.flush name).2
  := by
  rw [flush]
  cases hd : a.draft? name with
  | none => constructor <;> simp
  | some d =>
      have hcontent : a.content? name = some (d.fields, d.revision) := by rw [content?, hd]; rfl
      have hsame (other : String) :
          ((a.cancel d.timer).putDraft name { d with timer := none }).content? other
            = a.content? other := by
        rw [content?_putDraft_of_eq]
        · apply content?_cancel
        · rw [content?_cancel, hcontent]
      by_cases hempty : d.fields.isEmpty = true
      · simp only [hempty, if_true]
        constructor
        · apply hsame
        · simp [putDraft]
        · simp [putDraft]
        · simp
      · simp only [hempty, Bool.false_eq_true, if_false]
        constructor
        · apply hsame
        · simp [putDraft]
        · simp [putDraft]
        · simp [putDraft, hcontent]

/-- Whatever else of the state is changed before, the same is sent. -/
theorem Sends.of_eq {a before : Autosave} {name : String} {after : Autosave} {sent : Option Save}
    (h : Sends before name after sent)
    (hcontent : ∀ other, before.content? other = a.content? other)
    (hsaves : before.saves = a.saves) (hfresh : before.fresh = a.fresh) :
  Sends a name after sent
  := by
  constructor
  · intro other
    rw [h.content, hcontent]
  · rw [h.saves, hsaves]
  · rw [h.fresh, hfresh]
  · intro s hs
    rw [← hcontent, ← hfresh]
    apply h.save s hs

theorem sends_fire (a : Autosave) (timer : SaveTimer) :
  Sends a timer.name (a.fire timer).1 (a.fire timer).2
  := by
  rw [fire]
  cases hd : (a.cancel (some timer.id)).draft? timer.name with
  | none => constructor <;> simp
  | some d =>
      by_cases hrevision : d.revision = timer.revision
      · simp only [hrevision, if_true]
        apply (sends_flush _ timer.name).of_eq
        · intro other
          rw [content?_putDraft_of_eq]
          · apply content?_cancel
          · rw [content?, hd, ← hrevision]
            rfl
        · simp [putDraft]
        · simp [putDraft]
      · simp only [hrevision, if_false]
        constructor <;> simp

end Autosave

end Greenhouse
