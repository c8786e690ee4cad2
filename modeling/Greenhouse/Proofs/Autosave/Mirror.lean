import Greenhouse.Proofs.Autosave.Pad
import Greenhouse.Proofs.Autosave.Step

/-!
# What autosave has of a section

While no section is touched before its save has been answered, what autosave has of a section is
one of three things: nothing; a draft with one timer; or a draft without a timer, and perhaps the
save of it that is under way.  Each of them is what a pad says, with the timer as its deadline.
Of all timers that edits have started, only the last one of a section is left.

Every operation of autosave does to one section what is done to its pad, and leaves the others as
they are.
-/

namespace Greenhouse

theorem Table.put_put {α : Type} (name : String) (value old : α) (t : Table α) :
  put name value (put name old t) = put name value t
  := by
  induction t with
  | nil => simp [put]
  | cons entry rest ih =>
      obtain ⟨k, v⟩ := entry
      by_cases hk : name = k
      · simp [put, hk]
      · by_cases hlt : name < k
        · simp [put, hk, hlt]
        · simp [put, hk, hlt, ih]

theorem Pad.write_cons_self {field : String} (old value : Json) {rest : SettingsFields}
    (h : field ∉ rest.map Prod.fst) :
  Pad.write field value ((field, old) :: rest) = (field, value) :: rest
  := by
  simp only [Pad.write, List.map_cons, List.mem_cons_self, if_true]
  congr 1
  apply (List.map_congr_left _).trans (List.map_id rest)
  rintro ⟨key, kept⟩ hkept
  have hne : ¬ key = field := by
    rintro rfl
    apply h
    apply List.mem_map.mpr ⟨_, hkept, rfl⟩
  simp [hne]

/-- Putting an entry into a map with different names is writing a field. -/
theorem Json.putEntry_eq_write (field : String) (value : Json) {fields : SettingsFields}
    (h : (fields.map Prod.fst).Nodup) :
  Json.putEntry field value fields = Pad.write field value fields
  := by
  induction fields with
  | nil => simp [Json.putEntry, Pad.write]
  | cons entry rest ih =>
      obtain ⟨k, v⟩ := entry
      obtain ⟨hk, hrest⟩ := List.nodup_cons.mp h
      rw [Json.putEntry]
      by_cases hfield : k = field
      · subst hfield
        rw [if_pos rfl, Pad.write_cons_self v value hk]
      · rw [if_neg hfield, ih hrest]
        by_cases hmem : field ∈ rest.map Prod.fst
        · simp [Pad.write, hmem, hfield]
        · have hne : ¬ field = k := fun heq => hfield heq.symm
          simp [Pad.write, hmem, hne]

theorem Pad.nodup_write (field : String) (value : Json) {fields : SettingsFields}
    (h : (fields.map Prod.fst).Nodup) :
  ((Pad.write field value fields).map Prod.fst).Nodup
  := by
  rw [Pad.write]
  split
  · simpa [Function.comp_def] using h
  · next hmem =>
      simp only [List.map_append, List.map_cons, List.map_nil]
      apply List.nodup_append.mpr
      use h, List.nodup_singleton field
      rintro key hkey _ hlast rfl
      apply hmem
      rw [← List.mem_singleton.mp hlast]
      apply hkey

namespace Autosave

/-! ### What there is of a section -/

/-- A save of a section is under way. -/
def Awaits (a : Autosave) (name : String) : Prop := ∃ s ∈ a.saves, s.name = name

instance (a : Autosave) (name : String) : Decidable (a.Awaits name) :=
  inferInstanceAs (Decidable (∃ _ ∈ _, _))

/-- The timers of a section. -/
def timersOf (a : Autosave) (name : String) : List SaveTimer :=
  a.timers.filter fun t => t.name = name

/-- The saves of a section that are under way. -/
def savesOf (a : Autosave) (name : String) : List Save := a.saves.filter fun s => s.name = name

/-- Autosave has the same of a section as before. -/
structure Alike (a b : Autosave) (name : String) : Prop where
  draft : b.draft? name = a.draft? name
  timers : b.timersOf name = a.timersOf name
  saves : b.savesOf name = a.savesOf name

/-- What autosave has of a section is what the pad says. -/
inductive Reflects (a : Autosave) (name : String) : Pad → Prop
  | blank (draft : a.draft? name = none) (timers : a.timersOf name = [])
      (saves : a.savesOf name = []) : Reflects a name .blank
  | pending {fields : SettingsFields} {revision id due : Nat} (written : fields ≠ [])
      (nodup : (fields.map Prod.fst).Nodup) (draft : a.draft? name = some ⟨fields, revision, id⟩)
      (timers : a.timersOf name = [⟨id, name, revision, due⟩]) (saves : a.savesOf name = []) :
      Reflects a name ⟨fields, some due⟩
  | resting {fields : SettingsFields} {revision : Nat} {save : Option Save}
      (written : fields ≠ []) (nodup : (fields.map Prod.fst).Nodup)
      (draft : a.draft? name = some ⟨fields, revision, none⟩) (timers : a.timersOf name = [])
      (saves : a.savesOf name = save.toList) (sent : ∀ s ∈ save, s.revision = revision) :
      Reflects a name ⟨fields, none⟩

/-- The numbers of timers and saves have been given out, each once. -/
structure Numbered (a : Autosave) : Prop where
  timers : (a.timers.map SaveTimer.id).Nodup
  saves : (a.saves.map Save.id).Nodup
  timersFresh : ∀ t ∈ a.timers, t.id < a.fresh
  savesFresh : ∀ s ∈ a.saves, s.id < a.fresh

/-- What autosave has of all sections is what their pads say. -/
structure Mirrors (a : Autosave) (pads : String → Pad) : Prop extends Numbered a where
  reflects : ∀ name, Reflects a name (pads name)

variable {a b : Autosave} {name : String} {p : Pad} {pads : String → Pad}

theorem Reflects.of_alike (h : a.Reflects name p) (hab : Alike a b name) :
  b.Reflects name p
  := by
  obtain ⟨hdraft, htimers, hsaves⟩ := hab
  cases h with
  | blank draft timers saves =>
      apply blank (hdraft.trans draft) (htimers.trans timers) (hsaves.trans saves)
  | pending written nodup draft timers saves =>
      apply pending written nodup (hdraft.trans draft) (htimers.trans timers) (hsaves.trans saves)
  | resting written nodup draft timers saves sent =>
      apply resting written nodup (hdraft.trans draft) (htimers.trans timers)
        (hsaves.trans saves) sent

/-- One section changes, and the others stay. -/
theorem Mirrors.change (h : a.Mirrors pads) (hb : b.Numbered) (hown : b.Reflects name p)
    (hothers : ∀ other, other ≠ name → Alike a b other) :
  b.Mirrors (Function.update pads name p)
  := by
  use hb
  intro other
  by_cases hother : other = name
  · subst hother
    rw [Function.update_self]
    apply hown
  · rw [Function.update_of_ne hother]
    apply (h.reflects other).of_alike (hothers other hother)

/-! ### Timers and saves of one section -/

/-- Where a name has one entry, removing its number is removing the name. -/
theorem filter_id_eq_filter_name {α : Type} (id : α → Nat) {entries : List α} {key : α → String}
    {x : α} (hids : (entries.map id).Nodup) (hx : (entries.filter fun y => key y = name) = [x]) :
  (entries.filter fun y => id y != id x) = entries.filter fun y => key y ≠ name
  := by
  have hmem {y : α} : y ∈ entries ∧ key y = name ↔ y = x := by
    rw [← List.mem_singleton (b := x), ← hx, List.mem_filter, decide_eq_true_iff]
  apply List.filter_congr
  intro y hy
  rw [bne, Bool.eq_iff_iff, Bool.not_eq_true', beq_eq_false_iff_ne, decide_eq_true_iff]
  apply not_congr
  constructor
  · intro hid
    rw [List.inj_on_of_nodup_map hids hy (hmem.mpr rfl).1 hid]
    apply (hmem.mpr rfl).2
  · intro hname
    rw [hmem.mp ⟨hy, hname⟩]

theorem filter_filter_ne {α : Type} (entries : List α) (key : α → String) (name other : String) :
  ((entries.filter fun x => key x ≠ name).filter fun x => key x = other)
    = if other = name then [] else entries.filter fun x => key x = other
  := by
  rw [List.filter_filter]
  split
  · next h => simp [h]
  · next h =>
      apply List.filter_congr
      intro x _
      by_cases hx : key x = other <;> simp [hx, h]

theorem savesOf_eq_nil_iff :
  a.savesOf name = [] ↔ ¬ a.Awaits name
  := by
  simp [savesOf, List.filter_eq_nil_iff, Awaits]

theorem Reflects.fields_eq (h : a.Reflects name p) :
  ((a.draft? name).getD ⟨[], 0, none⟩).fields = p.fields
  := by
  cases h with
  | blank draft => rw [draft]; rfl
  | pending _ _ draft => rw [draft]; rfl
  | resting _ _ draft => rw [draft]; rfl

theorem Reflects.nodup_fields (h : a.Reflects name p) :
  (p.fields.map Prod.fst).Nodup
  := by
  cases h with
  | blank => apply List.nodup_nil
  | pending _ nodup => apply nodup
  | resting _ nodup => apply nodup

/-- The timers of a section are its deadline. -/
theorem Reflects.exists_timer_iff (h : a.Reflects name p) (due : Nat) :
  (∃ t ∈ a.timers, t.name = name ∧ t.due = due) ↔ p.deadline = some due
  := by
  have hmem : (∃ t ∈ a.timers, t.name = name ∧ t.due = due) ↔ ∃ t ∈ a.timersOf name, t.due = due := by
    simp only [timersOf, List.mem_filter, decide_eq_true_iff, and_assoc]
  rw [hmem]
  cases h with
  | blank _ timers => simp [timers, Pad.blank]
  | pending _ _ _ timers => simp [timers]
  | resting _ _ _ timers => simp [timers]

/-- A timer belongs to the draft of its section, and no save is under way then. -/
theorem Reflects.of_mem_timers {t : SaveTimer} (ht : t ∈ a.timers) (h : a.Reflects t.name p) :
  p.deadline = some t.due ∧ ¬ a.Awaits t.name
    ∧ ∃ fields, a.draft? t.name = some ⟨fields, t.revision, some t.id⟩
  := by
  have hmem : t ∈ a.timersOf t.name := List.mem_filter.mpr ⟨ht, decide_eq_true rfl⟩
  cases h with
  | blank _ timers =>
      rw [timers] at hmem
      nomatch hmem
  | @pending fields _ _ _ _ _ draft timers saves =>
      rw [timers] at hmem
      have heq := List.mem_singleton.mp hmem
      constructor
      · rw [heq]
      · use savesOf_eq_nil_iff.mp saves, fields
        rw [draft, heq]
  | resting _ _ _ timers =>
      rw [timers] at hmem
      nomatch hmem

/-- With the timer of the draft, all timers of a section are stopped. -/
theorem Numbered.timers_cancel (h : a.Numbered) (hr : a.Reflects name p) :
  (a.cancel ((a.draft? name).getD ⟨[], 0, none⟩).timer).timers
    = a.timers.filter fun t => t.name ≠ name
  := by
  have hself (hnone : a.timersOf name = []) :
      a.timers = a.timers.filter fun t => t.name ≠ name := by
    symm
    rw [List.filter_eq_self]
    intro t ht
    have hname := List.filter_eq_nil_iff.mp hnone t ht
    simpa using hname
  cases hr with
  | blank draft timers =>
      rw [draft]
      apply hself timers
  | pending _ _ draft timers =>
      rw [draft]
      exact filter_id_eq_filter_name SaveTimer.id h.timers timers
  | resting _ _ draft timers =>
      rw [draft]
      apply hself timers

@[simp]
theorem debounce_cancel (a : Autosave) (timer : Option Nat) :
  (a.cancel timer).debounce = a.debounce
  := by
  cases timer <;> rfl

/-! ### Operations -/

theorem nodup_map_append {α : Type} {entries kept : List α} {id : α → Nat} {x : α}
    (h : (entries.map id).Nodup) (hkept : kept.Sublist entries)
    (hx : ∀ y ∈ entries, id y < id x) :
  ((kept ++ [x]).map id).Nodup
  := by
  rw [List.map_append]
  apply List.nodup_append.mpr
  use h.sublist (hkept.map id), List.nodup_singleton _
  intro k hk k' hk'
  obtain ⟨y, hy, rfl⟩ := List.mem_map.mp hk
  obtain rfl := List.mem_singleton.mp hk'
  apply Nat.ne_of_lt (hx y (hkept.subset hy))

theorem Mirrors.edit (h : a.Mirrors pads) (hfree : ¬ a.Awaits name) (now : Nat) (field : String)
    (value : Json) :
  (a.edit now name field value).Mirrors (Function.update pads name
    ⟨Pad.write field value (pads name).fields, some (now + waitLength a.debounce)⟩)
  := by
  have hr := h.reflects name
  have htimers : (a.edit now name field value).timers
      = (a.timers.filter fun t => t.name ≠ name) ++ [⟨a.fresh, name,
        ((a.draft? name).getD ⟨[], 0, none⟩).revision + 1, now + waitLength a.debounce⟩] := by
    rw [← h.toNumbered.timers_cancel hr]
    simp [Autosave.edit]
  have hdrafts : (a.edit now name field value).drafts
      = Table.put name ⟨Pad.write field value (pads name).fields,
        ((a.draft? name).getD ⟨[], 0, none⟩).revision + 1, some a.fresh⟩ a.drafts := by
    rw [← hr.fields_eq, ← Json.putEntry_eq_write]
    · simp [Autosave.edit, putDraft]
    · rw [hr.fields_eq]
      apply hr.nodup_fields
  apply h.change
  · constructor
    · rw [htimers]
      apply nodup_map_append h.timers (List.filter_sublist) h.timersFresh
    · simpa using h.saves
    · rw [htimers, fresh_edit]
      intro t ht
      obtain ht | ht := List.mem_append.mp ht
      · apply Nat.lt_succ_of_lt (h.timersFresh t (List.mem_filter.mp ht).1)
      · rw [List.mem_singleton.mp ht]
        apply Nat.lt_succ_self
    · rw [saves_edit, fresh_edit]
      intro s hs
      apply Nat.lt_succ_of_lt (h.savesFresh s hs)
  · apply Reflects.pending (Pad.write_ne_nil field value (pads name).fields)
      (Pad.nodup_write field value hr.nodup_fields)
    · rw [draft?, hdrafts]
      apply Table.find?_put_self
    · rw [timersOf, htimers, List.filter_append, filter_filter_ne]
      simp
    · rw [savesOf, saves_edit]
      apply savesOf_eq_nil_iff.mpr hfree
  · intro other hother
    constructor
    · rw [draft?, hdrafts, Table.find?_put, if_neg hother.symm, draft?]
    · rw [timersOf, htimers, List.filter_append, filter_filter_ne, if_neg hother]
      simp [timersOf, hother.symm]
    · rw [savesOf, saves_edit, savesOf]

/-- What a section becomes when it is sent. -/
theorem flush_of_draft {d : Draft} (hd : a.draft? name = some d) (hfields : d.fields ≠ []) :
  a.flush name
    = ({ a with
          drafts := Table.put name { d with timer := none } a.drafts
          timers := (a.cancel d.timer).timers
          saves := a.saves ++ [⟨a.fresh, name, d.fields, d.revision⟩]
          fresh := a.fresh + 1 },
        some ⟨a.fresh, name, d.fields, d.revision⟩)
  := by
  have hempty : d.fields.isEmpty = false := by
    rw [List.isEmpty_eq_false_iff]
    apply hfields
  cases htimer : d.timer <;> simp [Autosave.flush, hd, htimer, hempty, putDraft, cancel]

theorem Mirrors.flush_of_draft (h : a.Mirrors pads) (hfree : ¬ a.Awaits name) {d : Draft}
    (hd : a.draft? name = some d) (hfields : (pads name).fields ≠ []) (now : Nat) :
  (a.flush name).1.Mirrors (Function.update pads name ((pads name).send name now).1)
    ∧ ((a.flush name).2.toList.map fun s => (now, s.request)) = ((pads name).send name now).2
  := by
  have hr := h.reflects name
  have heq := hr.fields_eq
  have htimers := h.toNumbered.timers_cancel hr
  rw [hd, Option.getD_some] at heq htimers
  rw [Autosave.flush_of_draft hd (heq ▸ hfields), htimers]
  constructor
  · apply h.change
    · constructor
      · apply h.timers.sublist (List.filter_sublist.map _)
      · apply nodup_map_append h.saves (List.Sublist.refl _) h.savesFresh
      · intro t ht
        apply Nat.lt_succ_of_lt (h.timersFresh t (List.mem_filter.mp ht).1)
      · intro s hs
        obtain hs | hs := List.mem_append.mp hs
        · apply Nat.lt_succ_of_lt (h.savesFresh s hs)
        · rw [List.mem_singleton.mp hs]
          apply Nat.lt_succ_self
    · rw [Pad.send]
      apply @Reflects.resting _ _ _ d.revision (some ⟨a.fresh, name, d.fields, d.revision⟩)
        hfields hr.nodup_fields
      · rw [draft?, Table.find?_put_self, heq]
      · rw [timersOf, filter_filter_ne, if_pos rfl]
      · rw [savesOf, List.filter_append]
        have hnone := savesOf_eq_nil_iff.mpr hfree
        rw [savesOf] at hnone
        simp [hnone]
      · simp
    · intro other hother
      constructor
      · rw [draft?, Table.find?_put, if_neg hother.symm, draft?]
      · rw [timersOf, filter_filter_ne, if_neg hother, timersOf]
      · rw [savesOf, List.filter_append]
        simp [savesOf, hother.symm]
  · simp [Pad.send, hfields, Save.request, heq]

theorem Mirrors.flush (h : a.Mirrors pads) (hfree : ¬ a.Awaits name) (now : Nat) :
  (a.flush name).1.Mirrors (Function.update pads name ((pads name).send name now).1)
    ∧ ((a.flush name).2.toList.map fun s => (now, s.request)) = ((pads name).send name now).2
  := by
  have hr := h.reflects name
  generalize hp : pads name = p at hr
  cases hr with
  | blank draft =>
      have hflush : a.flush name = (a, none) := by simp [Autosave.flush, draft]
      have hpads : Function.update pads name (Pad.blank.send name now).1 = pads := by
        rw [Function.update_eq_self_iff, hp]
        rfl
      rw [hflush, hpads]
      use h
      rfl
  | pending written _ draft =>
      rw [← hp]
      apply h.flush_of_draft hfree draft
      rw [hp]
      apply written
  | resting written _ draft =>
      rw [← hp]
      apply h.flush_of_draft hfree draft
      rw [hp]
      apply written

/-- A timer that runs down saves its section as a close would. -/
theorem fire_eq_flush {t : SaveTimer} {fields : SettingsFields}
    (hd : a.draft? t.name = some ⟨fields, t.revision, some t.id⟩) :
  a.fire t = a.flush t.name
  := by
  have hcancel : (a.cancel (some t.id)).draft? t.name = some ⟨fields, t.revision, some t.id⟩ := hd
  have hput : ((a.cancel (some t.id)).putDraft t.name ⟨fields, t.revision, none⟩).draft? t.name
      = some ⟨fields, t.revision, none⟩ := Table.find?_put_self ..
  rw [fire]
  simp only [hcancel, if_true]
  rw [Autosave.flush, Autosave.flush, hput, hd]
  simp only [putDraft, cancel, Table.put_put]

theorem timers_fire {t : SaveTimer} {fields : SettingsFields}
    (hd : a.draft? t.name = some ⟨fields, t.revision, some t.id⟩) :
  (a.fire t).1.timers = a.timers.filter fun other => other.id != t.id
  := by
  rw [fire_eq_flush hd, Autosave.flush, hd]
  by_cases hempty : fields.isEmpty = true <;> simp [hempty, putDraft, cancel]

theorem verifies_iff (s : Save) (reply : Except RequestError SettingsResponse) :
  Verifies reply ↔ (s.outcome reply).isOk
  := by
  cases reply with
  | error cause => simp [Verifies, Save.outcome, Except.isOk, Except.toBool]
  | ok response =>
      cases hbcc : response.verifiedBcc <;>
        simp [Verifies, Save.outcome, hbcc, Except.isOk, Except.toBool]

theorem Mirrors.answer (h : a.Mirrors pads) {s : Save} (hs : s ∈ a.saves)
    (reply : Except RequestError SettingsResponse) :
  (a.answer s (s.outcome reply)).1.Mirrors (Function.update pads s.name
    (if Verifies reply then .blank else { pads s.name with deadline := none }))
  := by
  have hr := h.reflects s.name
  generalize hp : pads s.name = p at hr
  have hmem : s ∈ a.savesOf s.name := List.mem_filter.mpr ⟨hs, decide_eq_true rfl⟩
  cases hr with
  | blank _ _ saves | pending _ _ _ _ saves =>
      rw [saves] at hmem
      cases hmem
  | @resting fields revision save written nodup draft timers saves sent =>
      have hsave : save = some s := by
        rw [saves] at hmem
        apply Option.mem_toList.mp hmem
      subst hsave
      have hrevision : s.revision = revision := sent s rfl
      have hsaves : (a.saves.filter fun other => other.id != s.id)
          = a.saves.filter fun other => other.name ≠ s.name :=
        filter_id_eq_filter_name Save.id h.saves saves
      have hany : ((a.draft? s.name).any fun d => d.revision == s.revision) = true := by
        simp [draft, hrevision]
      rw [answer_fst, hany, Bool.and_true, hsaves]
      apply h.change
      · constructor
        · apply h.timers
        · apply h.saves.sublist (List.filter_sublist.map _)
        · apply h.timersFresh
        · intro other hother
          apply h.savesFresh other (List.mem_filter.mp hother).1
      · have hnone : (a.saves.filter fun other => other.name ≠ s.name).filter
            (fun other => other.name = s.name) = [] := by
          rw [filter_filter_ne, if_pos rfl]
        by_cases hreply : Verifies reply
        · rw [if_pos hreply, if_pos ((verifies_iff s reply).mp hreply)]
          apply Reflects.blank
          · rw [draft?, Table.find?_erase, if_pos rfl]
          · apply timers
          · apply hnone
        · rw [if_neg hreply, if_neg fun hok => hreply ((verifies_iff s reply).mpr hok)]
          apply @Reflects.resting _ _ _ _ none written nodup
          · apply draft
          · apply timers
          · apply hnone
          · intro s hs
            cases hs
      · intro other hother
        constructor
        · rw [draft?]
          split
          · rw [Table.find?_erase, if_neg hother.symm, draft?]
          · rfl
        · rfl
        · rw [savesOf, filter_filter_ne, if_neg hother, savesOf]

end Autosave

end Greenhouse
