import Mathlib.Data.List.Induction
import Greenhouse.Proofs.Autosave.Refinement

/-!
# The timers of drafts

What autosave has of a section are its draft, its timers and its saves.  The draft knows the timer
that the next edit would stop.  In every state that is reached from nothing, this timer is running,
belongs to the section and was started for the revision of the draft: that is `Autosave.Wired`.
There may be further timers of the section that no draft knows, since a timer goes on when its draft
is given up.

It follows that nothing passes from one section to another: an input leaves what there is of every
section that it does not concern.
-/

namespace Greenhouse

namespace Autosave

/-- Autosave after a run of inputs. -/
def advance (a : Autosave) (inputs : List AutosaveInput) : Autosave :=
  inputs.foldl (fun a x => (a.step x).1) a

/-- Autosave after a run of inputs, from nothing. -/
def after (debounce : Nat) (inputs : List AutosaveInput) : Autosave :=
  (ofDebounce debounce).advance inputs

theorem advance_append_singleton (a : Autosave) (inputs : List AutosaveInput) (x : AutosaveInput) :
  a.advance (inputs ++ [x]) = ((a.advance inputs).step x).1
  := by
  rw [advance, List.foldl_append]
  rfl

/-- The draft with which an edit of a section goes on. -/
def begun (a : Autosave) (name : String) : Draft := (a.draft? name).getD ⟨[], 0, none⟩

/-- The section that an input concerns.  A timer or a save that is not there concerns none. -/
def subject? (a : Autosave) : AutosaveInput → Option String
  | .edit _ name _ _ | .flush name => some name
  | .fire timer => (a.timers.find? fun t => t.id = timer).map SaveTimer.name
  | .answer save _ => (a.saves.find? fun s => s.id = save).map Save.name

/-- The drafts are in order, every draft has fields, and the timer that a draft knows is running for
its revision. -/
structure Wired (a : Autosave) : Prop extends Numbered a where
  ordered : Table.Ordered a.drafts
  written : ∀ name d, a.draft? name = some d → d.fields ≠ []
  linked : ∀ name d id, a.draft? name = some d → d.timer = some id →
    ∃ due, ⟨id, name, d.revision, due⟩ ∈ a.timers

variable {a : Autosave} {name : String} {t : SaveTimer}

/-! ### What the operations do -/

section
variable (a)

theorem timers_cancel (timer : Option Nat) :
  (a.cancel timer).timers = a.timers.filter fun t => timer ≠ some t.id
  := by
  cases timer with
  | none => simp [cancel]
  | some id =>
      apply List.filter_congr
      intro t _
      rw [Bool.eq_iff_iff, bne_iff_ne, decide_eq_true_iff, ne_comm]
      simp

theorem draft?_edit (now : Nat) (name field : String) (value : Json) (other : String) :
  (a.edit now name field value).draft? other
    = if name = other then
        some ⟨Json.putEntry field value (a.begun name).fields, (a.begun name).revision + 1,
          some a.fresh⟩
      else a.draft? other
  := by
  simp [edit, begun, draft?, putDraft, Table.find?_put]

theorem timers_edit (now : Nat) (name field : String) (value : Json) :
  (a.edit now name field value).timers
    = (a.timers.filter fun t => (a.draft? name).bind Draft.timer ≠ some t.id)
      ++ [⟨a.fresh, name, (a.begun name).revision + 1, now + waitLength a.debounce⟩]
  := by
  have htimer : (a.draft? name).bind Draft.timer = (a.begun name).timer := by
    rw [begun]
    cases a.draft? name <;> rfl
  rw [htimer, ← timers_cancel]
  simp [edit, begun, putDraft]

/-- The draft of a section that is sent forgets its timer. -/
theorem draft?_flush (name other : String) :
  (a.flush name).1.draft? other
    = if name = other then (a.draft? name).map fun d => { d with timer := none }
      else a.draft? other
  := by
  rw [flush]
  cases hd : a.draft? name with
  | none =>
      by_cases hname : name = other
      · simp [← hname, hd]
      · simp [hname]
  | some d =>
      by_cases hempty : d.fields.isEmpty = true <;>
        simp [hempty, draft?, putDraft, Table.find?_put]

theorem timers_flush (name : String) :
  (a.flush name).1.timers
    = a.timers.filter fun t => (a.draft? name).bind Draft.timer ≠ some t.id
  := by
  rw [← timers_cancel, flush]
  cases hd : a.draft? name with
  | none => rfl
  | some d => by_cases hempty : d.fields.isEmpty = true <;> simp [hempty, putDraft]

/-- A timer that was started for the revision of the draft sends the section. -/
theorem fire_of_revision {d : Draft} (hd : a.draft? t.name = some d)
    (hrevision : d.revision = t.revision) :
  a.fire t
    = ((a.cancel (some t.id)).putDraft t.name { d with timer := none }).flush t.name
  := by
  have hcancel : (a.cancel (some t.id)).draft? t.name = some d := hd
  simp [fire, hcancel, hrevision]

/-- A timer that was started for another revision, or another draft, only ends. -/
theorem fire_of_ne_revision (h : (a.draft? t.name).map Draft.revision ≠ some t.revision) :
  a.fire t = (a.cancel (some t.id), none)
  := by
  have hcancel : (a.cancel (some t.id)).draft? t.name = a.draft? t.name := rfl
  rw [fire]
  simp only [hcancel]
  split
  · rfl
  · next d hd =>
      apply if_neg
      intro hrevision
      apply h
      rw [hd, ← hrevision]
      rfl

theorem draft?_fire (t : SaveTimer) (other : String) :
  (a.fire t).1.draft? other
    = if t.name = other ∧ (a.draft? t.name).map Draft.revision = some t.revision then
        (a.draft? other).map fun d => { d with timer := none }
      else a.draft? other
  := by
  by_cases hrevision : (a.draft? t.name).map Draft.revision = some t.revision
  · obtain ⟨d, hd, hrevision'⟩ := Option.map_eq_some_iff.mp hrevision
    rw [a.fire_of_revision hd hrevision', draft?_flush]
    by_cases hname : t.name = other
    · rw [if_pos hname, if_pos ⟨hname, hrevision⟩, ← hname, hd]
      simp [draft?, putDraft]
    · rw [if_neg hname, if_neg fun h => hname h.1]
      simp [draft?, putDraft, Table.find?_put, hname]
  · rw [if_neg fun h => hrevision h.2, a.fire_of_ne_revision hrevision]
    rfl

theorem fire_timers (t : SaveTimer) :
  (a.fire t).1.timers = a.timers.filter fun other => other.id ≠ t.id
  := by
  have hcancel : (a.cancel (some t.id)).timers = a.timers.filter fun other => other.id ≠ t.id := by
    rw [timers_cancel]
    apply List.filter_congr
    intro other _
    simp [eq_comm]
  by_cases hrevision : (a.draft? t.name).map Draft.revision = some t.revision
  · obtain ⟨d, hd, hrevision⟩ := Option.map_eq_some_iff.mp hrevision
    rw [a.fire_of_revision hd hrevision, timers_flush, ← hcancel]
    simp [draft?, putDraft]
  · rw [a.fire_of_ne_revision hrevision, hcancel]

theorem draft?_answer (s : Save) (outcome : Except SaveError String) (other : String) :
  (a.answer s outcome).1.draft? other
    = if s.name = other ∧ outcome.isOk ∧ (a.draft? s.name).map Draft.revision = some s.revision
      then none
      else a.draft? other
  := by
  have hcontent := a.content?_answer s outcome other
  have hrevision : (a.content? s.name).map Prod.snd = (a.draft? s.name).map Draft.revision := by
    rw [content?, Option.map_map]
    rfl
  rw [hrevision] at hcontent
  split at hcontent
  · next h =>
      rw [if_pos h]
      apply Option.map_eq_none_iff.mp hcontent
  · next h =>
      rw [if_neg h, answer_fst, draft?]
      split
      · next hand =>
          rw [Table.find?_erase]
          apply if_neg
          intro hname
          obtain ⟨hok, hany⟩ := (Bool.and_eq_true _ _).mp hand
          obtain ⟨d, hd, heq⟩ := (Option.any_eq_true _ _).mp hany
          apply h
          use hname, hok
          rw [hd, Option.map_some, eq_of_beq heq]
      · rfl

theorem timers_answer (s : Save) (outcome : Except SaveError String) :
  (a.answer s outcome).1.timers = a.timers
  := by
  rw [answer_fst]

/-- The timer with a number runs down. -/
theorem step_fire_of_mem (h : a.Numbered) (ht : t ∈ a.timers) :
  a.step (.fire t.id) = ((a.fire t).1, (a.fire t).2, [])
  := by
  simp only [step, find?_of_nodup_ids h.timers ht]

theorem step_fire_of_find? {timer : Nat} (h : (a.timers.find? fun t => t.id = timer) = some t) :
  a.step (.fire timer) = ((a.fire t).1, (a.fire t).2, [])
  := by
  simp only [step, h]

theorem step_answer_of_find? {save : Nat} {s : Save}
    (h : (a.saves.find? fun s => s.id = save) = some s)
    (reply : Except RequestError SettingsResponse) :
  a.step (.answer save reply)
    = ((a.answer s (s.outcome reply)).1, none, (a.answer s (s.outcome reply)).2)
  := by
  simp only [step, h]

end

/-- An input edits a section, or at most sends one, or answers a save. -/
theorem step_cases (a : Autosave) (x : AutosaveInput) :
  (∃ now name field value, x = .edit now name field value)
    ∨ (∃ name b sent, a.Sends name b sent ∧ a.step x = (b, sent, [])
      ∧ ∀ s ∈ sent, a.subject? x = some name)
    ∨ ∃ s outcome, s ∈ a.saves ∧ a.subject? x = some s.name
      ∧ a.step x = ((a.answer s outcome).1, none, (a.answer s outcome).2)
  := by
  have hnothing : a.Sends "" a none := by constructor <;> simp
  cases x with
  | edit now name field value =>
      left
      use now, name, field, value
  | flush name =>
      right; left
      use name, (a.flush name).1, (a.flush name).2, a.sends_flush name, rfl
      intro s _
      rfl
  | fire timer =>
      right; left
      cases ht : a.timers.find? fun t => t.id = timer with
      | none =>
          use "", a, none, hnothing
          simp [step, ht]
      | some t =>
          use t.name, (a.fire t).1, (a.fire t).2, a.sends_fire t, a.step_fire_of_find? ht
          intro s _
          rw [subject?, ht]
          rfl
  | answer save reply =>
      cases hs : a.saves.find? fun s => s.id = save with
      | none =>
          right; left
          use "", a, none, hnothing
          simp [step, hs]
      | some s =>
          right; right
          use s, s.outcome reply, List.mem_of_find?_eq_some hs
          constructor
          · rw [subject?, hs]
            rfl
          · apply a.step_answer_of_find? hs

theorem fresh_le_step (a : Autosave) (x : AutosaveInput) :
  a.fresh ≤ (a.step x).1.fresh
  := by
  obtain ⟨now, name, field, value, rfl⟩ | ⟨name, b, sent, hsend, heq, _⟩
    | ⟨s, outcome, _, _, heq⟩ := a.step_cases x
  · simp [step]
  · rw [heq, hsend.fresh]
    apply Nat.le_add_right
  · apply Nat.le_of_eq
    rw [heq, fresh_answer]

/-- What is sent has the next number and belongs to the section that the input concerns. -/
theorem eq_of_sent {x : AutosaveInput} {s : Save} (h : (a.step x).2.1 = some s) :
  s.id = a.fresh ∧ a.fresh < (a.step x).1.fresh ∧ a.subject? x = some s.name
  := by
  obtain ⟨now, name, field, value, rfl⟩ | ⟨name, b, sent, hsend, heq, hsubject⟩
    | ⟨_, _, _, _, heq⟩ := a.step_cases x
  · nomatch h
  · rw [heq] at h ⊢
    obtain rfl : sent = some s := h
    obtain ⟨hid, hname, _⟩ := hsend.save s rfl
    constructor
    · apply hid
    · constructor
      · simp [hsend.fresh]
      · rw [hname]
        apply hsubject s rfl
  · rw [heq] at h
    nomatch h

/-- A save that is under way was under way before, or has been sent. -/
theorem mem_saves_or_sent {x : AutosaveInput} {s : Save} (h : s ∈ (a.step x).1.saves) :
  s ∈ a.saves ∨ (a.step x).2.1 = some s
  := by
  obtain ⟨now, name, field, value, rfl⟩ | ⟨name, b, sent, hsend, heq, _⟩
    | ⟨s', outcome, _, _, heq⟩ := a.step_cases x
  · left
    simpa [step] using h
  · rw [heq] at h ⊢
    rw [hsend.saves] at h
    obtain h | h := List.mem_append.mp h
    · left
      apply h
    · right
      apply Option.mem_toList.mp h
  · left
    rw [heq, saves_answer] at h
    apply (List.mem_filter.mp h).1

/-- A timer that is running was running before, or belongs to the section that the input
concerns. -/
theorem mem_timers_or_subject? {x : AutosaveInput} (h : t ∈ (a.step x).1.timers) :
  t ∈ a.timers ∨ a.subject? x = some t.name
  := by
  cases x with
  | edit now name field value =>
      simp only [step, timers_edit] at h
      obtain h | h := List.mem_append.mp h
      · left
        apply (List.mem_filter.mp h).1
      · right
        rw [List.mem_singleton.mp h]
        rfl
  | flush name =>
      left
      simp only [step, timers_flush] at h
      apply (List.mem_filter.mp h).1
  | fire timer =>
      left
      cases hfind : a.timers.find? fun t => t.id = timer with
      | none => simpa only [step, hfind] using h
      | some t' =>
          rw [a.step_fire_of_find? hfind, fire_timers] at h
          apply (List.mem_filter.mp h).1
  | answer save reply =>
      left
      cases hfind : a.saves.find? fun s => s.id = save with
      | none => simpa only [step, hfind] using h
      | some s =>
          rw [a.step_answer_of_find? hfind, timers_answer] at h
          apply h

/-! ### Numbers -/

/-- What is new has the next number. -/
theorem Numbered.change (h : a.Numbered) {b : Autosave} (timers : List SaveTimer)
    (saves : List Save) (timer : Option SaveTimer) (save : Option Save)
    (htimers : b.timers = timers ++ timer.toList) (hkept : timers.Sublist a.timers)
    (htimer : ∀ t ∈ timer, t.id = a.fresh)
    (hsaves : b.saves = saves ++ save.toList) (hleft : saves.Sublist a.saves)
    (hsave : ∀ s ∈ save, s.id = a.fresh)
    (hfresh : b.fresh = a.fresh + timer.toList.length + save.toList.length) :
  b.Numbered
  := by
  constructor
  · rw [htimers]
    cases timer with
    | none => simpa using h.timers.sublist (hkept.map _)
    | some t =>
        apply nodup_map_append h.timers hkept
        intro old hold
        rw [htimer t rfl]
        apply h.timersFresh old hold
  · rw [hsaves]
    cases save with
    | none => simpa using h.saves.sublist (hleft.map _)
    | some s =>
        apply nodup_map_append h.saves hleft
        intro old hold
        rw [hsave s rfl]
        apply h.savesFresh old hold
  · rw [htimers, hfresh]
    intro t ht
    obtain ht | ht := List.mem_append.mp ht
    · have hlt := h.timersFresh t (hkept.subset ht)
      omega
    · obtain rfl := Option.mem_toList.mp ht
      rw [htimer t rfl, Option.toList_some, List.length_singleton]
      omega
  · rw [hsaves, hfresh]
    intro s hs
    obtain hs | hs := List.mem_append.mp hs
    · have hlt := h.savesFresh s (hleft.subset hs)
      omega
    · obtain rfl := Option.mem_toList.mp hs
      rw [hsave s rfl, Option.toList_some, List.length_singleton]
      omega

theorem Numbered.edit (h : a.Numbered) (now : Nat) (name field : String) (value : Json) :
  (a.edit now name field value).Numbered
  := by
  apply h.change _ a.saves (some _) none (a.timers_edit now name field value)
  · apply List.filter_sublist
  · intro t ht
    rw [← Option.mem_some.mp ht]
  · simp
  · apply List.Sublist.refl
  · simp
  · simp

theorem Numbered.send (h : a.Numbered) {b : Autosave} {sent : Option Save}
    (hsend : a.Sends name b sent) (htimers : b.timers.Sublist a.timers) :
  b.Numbered
  := by
  apply h.change b.timers a.saves none sent (by simp) htimers (by simp) hsend.saves
    (List.Sublist.refl _)
  · intro s hs
    apply (hsend.save s hs).1
  · simp [hsend.fresh]

theorem Numbered.answer (h : a.Numbered) (s : Save) (outcome : Except SaveError String) :
  (a.answer s outcome).1.Numbered
  := by
  apply h.change a.timers (a.saves.filter fun other => other.id != s.id) none none
  · simp [timers_answer]
  · apply List.Sublist.refl
  · simp
  · simp
  · apply List.filter_sublist
  · simp
  · simp

/-! ### One section beside another -/

/-- The timer that a draft knows belongs to its section. -/
theorem Wired.timer_ne (h : a.Wired) (ht : t ∈ a.timers) (hname : t.name ≠ name) :
  (a.draft? name).bind Draft.timer ≠ some t.id
  := by
  intro htimer
  obtain ⟨d, hd, hid⟩ := Option.bind_eq_some_iff.mp htimer
  obtain ⟨due, hlinked⟩ := h.linked name d t.id hd hid
  have heq := List.inj_on_of_nodup_map h.timers ht hlinked rfl
  apply hname
  rw [heq]

/-- Stopping the timer of a draft leaves those of other sections. -/
theorem Wired.timersOf_filter (h : a.Wired) {other : String} (hother : name ≠ other) :
  ((a.timers.filter fun t => (a.draft? name).bind Draft.timer ≠ some t.id).filter
      fun t => t.name = other)
    = a.timersOf other
  := by
  rw [List.filter_filter, timersOf]
  apply List.filter_congr
  intro t ht
  by_cases hname : t.name = other
  · have hne := h.timer_ne ht fun heq => hother (heq.symm.trans hname)
    simp [hname, hne]
  · simp [hname]

theorem Wired.alike_edit (h : a.Wired) (now : Nat) (name field : String) (value : Json)
    {other : String} (hother : name ≠ other) :
  Alike a (a.edit now name field value) other
  := by
  constructor
  · rw [draft?_edit, if_neg hother]
  · rw [timersOf, timers_edit, List.filter_append, h.timersOf_filter hother]
    simp [hother]
  · rw [savesOf, saves_edit, savesOf]

/-- What is sent is a save of its own section. -/
theorem Sends.savesOf {b : Autosave} {sent : Option Save} (h : a.Sends name b sent)
    {other : String} (hother : name ≠ other) :
  b.savesOf other = a.savesOf other
  := by
  rw [Autosave.savesOf, h.saves, List.filter_append]
  cases sent with
  | none => simp [Autosave.savesOf]
  | some s => simp [Autosave.savesOf, (h.save s rfl).2.1, hother]

theorem Wired.alike_flush (h : a.Wired) {other : String} (hother : name ≠ other) :
  Alike a (a.flush name).1 other
  := by
  constructor
  · rw [draft?_flush, if_neg hother]
  · rw [timersOf, timers_flush, h.timersOf_filter hother]
  · apply (a.sends_flush name).savesOf hother

theorem Wired.alike_fire (h : a.Wired) (ht : t ∈ a.timers) {other : String}
    (hother : t.name ≠ other) :
  Alike a (a.fire t).1 other
  := by
  constructor
  · rw [draft?_fire, if_neg fun h => hother h.1]
  · rw [timersOf, fire_timers, List.filter_filter, timersOf]
    apply List.filter_congr
    intro t' ht'
    by_cases hname : t'.name = other
    · have hne : t'.id ≠ t.id := by
        intro hid
        apply hother
        rw [← List.inj_on_of_nodup_map h.timers ht' ht hid, hname]
      simp [hname, hne]
    · simp [hname]
  · apply (a.sends_fire t).savesOf hother

theorem Numbered.alike_answer (h : a.Numbered) {s : Save} (hs : s ∈ a.saves)
    (outcome : Except SaveError String) {other : String} (hother : s.name ≠ other) :
  Alike a (a.answer s outcome).1 other
  := by
  constructor
  · rw [draft?_answer, if_neg fun h => hother h.1]
  · rw [timersOf, timers_answer, timersOf]
  · rw [savesOf, saves_answer, List.filter_filter, savesOf]
    apply List.filter_congr
    intro s' hs'
    by_cases hname : s'.name = other
    · have hne : s'.id ≠ s.id := by
        intro hid
        apply hother
        rw [← List.inj_on_of_nodup_map h.saves hs' hs hid, hname]
      simp [hname, hne]
    · simp [hname]

/-- An input leaves what there is of every section that it does not concern. -/
theorem Wired.alike_step (h : a.Wired) {x : AutosaveInput} (hx : a.subject? x ≠ some name) :
  Alike a (a.step x).1 name
  := by
  cases x with
  | edit now other field value =>
      apply h.alike_edit
      intro heq
      apply hx (congrArg some heq)
  | flush other =>
      apply h.alike_flush
      intro heq
      apply hx (congrArg some heq)
  | fire timer =>
      cases ht : a.timers.find? fun t => t.id = timer with
      | none =>
          simp only [step, ht]
          constructor <;> rfl
      | some t =>
          rw [a.step_fire_of_find? ht]
          apply h.alike_fire (List.mem_of_find?_eq_some ht)
          intro heq
          apply hx
          rw [subject?, ht, Option.map_some, heq]
  | answer save reply =>
      cases hs : a.saves.find? fun s => s.id = save with
      | none =>
          simp only [step, hs]
          constructor <;> rfl
      | some s =>
          rw [a.step_answer_of_find? hs]
          apply h.toNumbered.alike_answer (List.mem_of_find?_eq_some hs)
          intro heq
          apply hx
          rw [subject?, hs, Option.map_some, heq]

/-! ### Order -/

theorem ordered_edit (h : Table.Ordered a.drafts) (now : Nat) (name field : String) (value : Json) :
  Table.Ordered (a.edit now name field value).drafts
  := by
  simp only [edit, putDraft, drafts_cancel]
  apply Table.ordered_put _ _ h

theorem ordered_flush (h : Table.Ordered a.drafts) (name : String) :
  Table.Ordered (a.flush name).1.drafts
  := by
  rw [flush]
  split
  · apply h
  · next d _ =>
      have hput :
          Table.Ordered ((a.cancel d.timer).putDraft name { d with timer := none }).drafts := by
        rw [putDraft, drafts_cancel]
        apply Table.ordered_put _ _ h
      simp only
      split
      · apply hput
      · apply hput

theorem ordered_fire (h : Table.Ordered a.drafts) (t : SaveTimer) :
  Table.Ordered (a.fire t).1.drafts
  := by
  rw [fire]
  split
  · apply h
  · split
    · apply ordered_flush
      apply Table.ordered_put _ _ h
    · apply h

theorem ordered_answer (h : Table.Ordered a.drafts) (s : Save) (outcome : Except SaveError String) :
  Table.Ordered (a.answer s outcome).1.drafts
  := by
  rw [answer_fst]
  simp only
  split
  · apply Table.ordered_erase _ h
  · apply h

/-- The sections with unsaved edits are those that have a draft. -/
theorem Wired.mem_pendingNames_iff (h : a.Wired) :
  name ∈ a.pendingNames ↔ a.draft? name ≠ none
  := by
  have hnames : name ∈ a.pendingNames ↔ (a.draft? name).any fun d => !d.fields.isEmpty :=
    Table.mem_names_filter h.ordered fun d : Draft => !d.fields.isEmpty
  rw [hnames]
  cases hd : a.draft? name with
  | none => simp
  | some d => simp [h.written name d hd]

/-! ### Steps -/

theorem putEntry_ne_nil (field : String) (value : Json) (fields : SettingsFields) :
  Json.putEntry field value fields ≠ []
  := by
  cases fields with
  | nil => simp [Json.putEntry]
  | cons entry rest =>
      rw [Json.putEntry]
      split <;> simp

theorem wired_ofDebounce (debounce : Nat) :
  Wired (ofDebounce debounce)
  := by
  constructor
  · constructor <;> simp [ofDebounce]
  · apply Table.ordered_nil
  · intro name d hd
    cases hd
  · intro name d id hd
    cases hd

theorem Wired.edit (h : a.Wired) (now : Nat) (name field : String) (value : Json) :
  (a.edit now name field value).Wired
  := by
  use h.toNumbered.edit now name field value, ordered_edit h.ordered now name field value
  · intro other d hd
    rw [draft?_edit] at hd
    split at hd
    · rw [← Option.some.inj hd]
      apply putEntry_ne_nil
    · apply h.written other d hd
  · intro other d id hd htimer
    rw [timers_edit]
    rw [draft?_edit] at hd
    split at hd
    · next hname =>
        obtain rfl := Option.some.inj hd
        obtain rfl := Option.some.inj htimer
        use now + waitLength a.debounce
        rw [← hname]
        apply List.mem_append_right _ (List.mem_singleton_self _)
    · next hname =>
        obtain ⟨due, hlinked⟩ := h.linked other d id hd htimer
        use due
        apply List.mem_append_left
        apply List.mem_filter.mpr ⟨hlinked, decide_eq_true (h.timer_ne hlinked (Ne.symm hname))⟩

theorem Wired.flush (h : a.Wired) (name : String) :
  (a.flush name).1.Wired
  := by
  have hsub : (a.flush name).1.timers.Sublist a.timers := by
    rw [timers_flush]
    apply List.filter_sublist
  use h.toNumbered.send (a.sends_flush name) hsub, ordered_flush h.ordered name
  · intro other d hd
    rw [draft?_flush] at hd
    split at hd
    · obtain ⟨d', hd', rfl⟩ := Option.map_eq_some_iff.mp hd
      apply h.written name d' hd'
    · apply h.written other d hd
  · intro other d id hd htimer
    rw [draft?_flush] at hd
    split at hd
    · obtain ⟨d', _, rfl⟩ := Option.map_eq_some_iff.mp hd
      nomatch htimer
    · next hname =>
        obtain ⟨due, hlinked⟩ := h.linked other d id hd htimer
        use due
        rw [timers_flush]
        apply List.mem_filter.mpr ⟨hlinked, decide_eq_true (h.timer_ne hlinked (Ne.symm hname))⟩

theorem Wired.fire (h : a.Wired) (ht : t ∈ a.timers) :
  (a.fire t).1.Wired
  := by
  have hsub : (a.fire t).1.timers.Sublist a.timers := by
    rw [fire_timers]
    apply List.filter_sublist
  use h.toNumbered.send (a.sends_fire t) hsub, ordered_fire h.ordered t
  · intro other d hd
    rw [draft?_fire] at hd
    split at hd
    · obtain ⟨d', hd', rfl⟩ := Option.map_eq_some_iff.mp hd
      apply h.written other d' hd'
    · apply h.written other d hd
  · intro other d id hd htimer
    rw [draft?_fire] at hd
    split at hd
    · obtain ⟨d', _, rfl⟩ := Option.map_eq_some_iff.mp hd
      nomatch htimer
    · next hother =>
        obtain ⟨due, hlinked⟩ := h.linked other d id hd htimer
        use due
        rw [fire_timers]
        apply List.mem_filter.mpr
        use hlinked
        apply decide_eq_true
        -- otherwise it is the timer that runs down, and was started for this draft
        intro hid
        have heq := List.inj_on_of_nodup_map h.timers ht hlinked hid.symm
        apply hother
        rw [heq]
        use rfl
        rw [hd]
        rfl

theorem Wired.answer (h : a.Wired) (s : Save) (outcome : Except SaveError String) :
  (a.answer s outcome).1.Wired
  := by
  have hold {other : String} {d : Draft} (hd : (a.answer s outcome).1.draft? other = some d) :
      a.draft? other = some d := by
    rw [draft?_answer] at hd
    split at hd
    · nomatch hd
    · apply hd
  use h.toNumbered.answer s outcome, ordered_answer h.ordered s outcome
  · intro other d hd
    apply h.written other d (hold hd)
  · intro other d id hd htimer
    rw [timers_answer]
    apply h.linked other d id (hold hd) htimer

theorem Wired.step (h : a.Wired) (x : AutosaveInput) :
  (a.step x).1.Wired
  := by
  cases x with
  | edit now name field value => apply h.edit
  | flush name => apply h.flush
  | fire timer =>
      cases ht : a.timers.find? fun t => t.id = timer with
      | none =>
          simp only [Autosave.step, ht]
          apply h
      | some t =>
          rw [a.step_fire_of_find? ht]
          apply h.fire (List.mem_of_find?_eq_some ht)
  | answer save reply =>
      cases hs : a.saves.find? fun s => s.id = save with
      | none =>
          simp only [Autosave.step, hs]
          apply h
      | some s =>
          rw [a.step_answer_of_find? hs]
          apply h.answer

theorem Wired.advance (h : a.Wired) (inputs : List AutosaveInput) :
  (a.advance inputs).Wired
  := by
  induction inputs using List.reverseRecOn with
  | nil => apply h
  | append_singleton inputs x ih =>
      rw [advance_append_singleton]
      apply ih.step

theorem wired_after (debounce : Nat) (inputs : List AutosaveInput) :
  (after debounce inputs).Wired
  := (wired_ofDebounce debounce).advance inputs

end Autosave

end Greenhouse
