import Greenhouse.Proofs.Autosave.Wiring

/-!
# Sections up to numbers

Timers and saves are numbered over all sections, so the numbers that one section gets depend on what
is done to the others.  They have no meaning beyond telling timers and saves apart.  What autosave
has of a section is a copy of what another autosave has of it if the numbers are replaced one by one
(`Autosave.Copies`), and the operations on a section keep copies: whatever is sent and announced is
the same up to numbers.
-/

namespace Greenhouse

/-- The timer of a draft has another number. -/
def Draft.renumber (f : Nat → Nat) (d : Draft) : Draft := { d with timer := d.timer.map f }

/-- A timer has another number. -/
def SaveTimer.renumber (f : Nat → Nat) (t : SaveTimer) : SaveTimer := { t with id := f t.id }

/-- A save has another number. -/
def Save.renumber (f : Nat → Nat) (s : Save) : Save := { s with id := f s.id }

namespace Autosave

/-- What the second autosave has of a section is what the first has of it, with other numbers. -/
structure Copies (f : Nat → Nat) (a b : Autosave) (name : String) : Prop where
  injective : ∀ i < a.fresh, ∀ j < a.fresh, f i = f j → i = j
  lt : ∀ i < a.fresh, f i < b.fresh
  debounce : b.debounce = a.debounce
  draft : b.draft? name = (a.draft? name).map (Draft.renumber f)
  timers : b.timersOf name = (a.timersOf name).map (SaveTimer.renumber f)
  saves : b.savesOf name = (a.savesOf name).map (Save.renumber f)

variable {f : Nat → Nat} {a b : Autosave} {name : String} {t : SaveTimer} {s : Save}

/-! ### Numbers -/

theorem Numbered.id_lt_of_mem_timersOf (h : a.Numbered) (ht : t ∈ a.timersOf name) :
  t.id < a.fresh
  := h.timersFresh t (List.mem_filter.mp ht).1

theorem Numbered.id_lt_of_mem_savesOf (h : a.Numbered) (hs : s ∈ a.savesOf name) :
  s.id < a.fresh
  := h.savesFresh s (List.mem_filter.mp hs).1

/-- The timer that a draft knows has a number that has been given out. -/
theorem Wired.timer_lt (h : a.Wired) {id : Nat} (hid : (a.draft? name).bind Draft.timer = some id) :
  id < a.fresh
  := by
  obtain ⟨d, hd, htimer⟩ := Option.bind_eq_some_iff.mp hid
  obtain ⟨due, hmem⟩ := h.linked name d id hd htimer
  apply h.timersFresh _ hmem

/-- Only the numbers that have been given out count. -/
theorem Copies.congr (h : Copies f a b name) (ha : a.Wired) {g : Nat → Nat}
    (hg : ∀ i < a.fresh, g i = f i) :
  Copies g a b name
  := by
  constructor
  · intro i hi j hj hij
    rw [hg i hi, hg j hj] at hij
    apply h.injective i hi j hj hij
  · intro i hi
    rw [hg i hi]
    apply h.lt i hi
  · apply h.debounce
  · rw [h.draft]
    apply Option.map_congr
    intro d hd
    rw [Draft.renumber, Draft.renumber]
    congr 1
    apply Option.map_congr
    intro id hid
    symm
    apply hg id (ha.timer_lt (Option.bind_eq_some_iff.mpr ⟨d, hd, hid⟩))
  · rw [h.timers]
    apply List.map_congr_left
    intro t ht
    rw [SaveTimer.renumber, SaveTimer.renumber, hg t.id (ha.toNumbered.id_lt_of_mem_timersOf ht)]
  · rw [h.saves]
    apply List.map_congr_left
    intro s hs
    rw [Save.renumber, Save.renumber, hg s.id (ha.toNumbered.id_lt_of_mem_savesOf hs)]

/-- The next numbers can be made to fit. -/
theorem Copies.exists_next (h : Copies f a b name) (ha : a.Wired) :
  ∃ g, Copies g a b name ∧ g a.fresh = b.fresh ∧ ∀ i < a.fresh, g i = f i
  := by
  have hg (i : Nat) (hi : i < a.fresh) : Function.update f a.fresh b.fresh i = f i :=
    Function.update_of_ne (Nat.ne_of_lt hi) ..
  use Function.update f a.fresh b.fresh, h.congr ha hg, Function.update_self ..

/-- A section of the second autosave is left as it is. -/
theorem Copies.of_alike (h : Copies f a b name) {c : Autosave} (hbc : Alike b c name)
    (hdebounce : c.debounce = b.debounce) (hfresh : b.fresh ≤ c.fresh) :
  Copies f a c name
  := by
  constructor
  · apply h.injective
  · intro i hi
    apply Nat.lt_of_lt_of_le (h.lt i hi) hfresh
  · rw [hdebounce, h.debounce]
  · rw [hbc.draft, h.draft]
  · rw [hbc.timers, h.timers]
  · rw [hbc.saves, h.saves]

/-- A timer of the section has its counterpart. -/
theorem Copies.renumber_mem_timers (h : Copies f a b name) (ht : t ∈ a.timersOf name) :
  t.renumber f ∈ b.timersOf name
  := by
  rw [h.timers]
  apply List.mem_map_of_mem ht

theorem Copies.renumber_mem_saves_iff (h : Copies f a b name) (ha : a.Numbered)
    (hs : s.name = name) (hid : s.id < a.fresh) :
  s.renumber f ∈ b.saves ↔ s ∈ a.saves
  := by
  have hb : s.renumber f ∈ b.saves ↔ s.renumber f ∈ b.savesOf name := by
    simp [savesOf, Save.renumber, hs]
  have ha' : s ∈ a.saves ↔ s ∈ a.savesOf name := by simp [savesOf, hs]
  rw [hb, ha', h.saves]
  constructor
  · intro hmem
    obtain ⟨s', hs', heq⟩ := List.mem_map.mp hmem
    simp only [Save.renumber, Save.mk.injEq] at heq
    obtain ⟨hf, hname, hfields, hrevision⟩ := heq
    have hid' := h.injective s'.id (ha.id_lt_of_mem_savesOf hs') s.id hid hf
    obtain rfl : s' = s := by
      cases s
      cases s'
      simp_all
    apply hs'
  · apply List.mem_map_of_mem

/-- Stopping a timer and its counterpart leaves counterparts. -/
theorem Copies.filter_timers (h : Copies f a b name) (ha : a.Numbered) (timer : Option Nat)
    (htimer : ∀ id, timer = some id → id < a.fresh) :
  ((b.timersOf name).filter fun t => timer.map f ≠ some t.id)
    = ((a.timersOf name).filter fun t => timer ≠ some t.id).map (SaveTimer.renumber f)
  := by
  rw [h.timers, List.filter_map]
  congr 1
  apply List.filter_congr
  intro t ht
  cases timer with
  | none => simp
  | some id =>
      have hinj := h.injective id (htimer id rfl) t.id (ha.id_lt_of_mem_timersOf ht)
      by_cases heq : id = t.id
      · simp [SaveTimer.renumber, heq]
      · have hne : f id ≠ f t.id := fun hf => heq (hinj hf)
        simp [SaveTimer.renumber, heq, hne]

/-- The draft and its copy know a timer and its counterpart. -/
theorem Copies.timer_eq (h : Copies f a b name) :
  (b.draft? name).bind Draft.timer = ((a.draft? name).bind Draft.timer).map f
  := by
  rw [h.draft]
  cases a.draft? name <;> rfl

/-! ### Operations -/

theorem flush_snd (a : Autosave) (name : String) :
  (a.flush name).2
    = ((a.draft? name).filter fun d => !d.fields.isEmpty).map
      fun d => ⟨a.fresh, name, d.fields, d.revision⟩
  := by
  rw [flush]
  cases hd : a.draft? name with
  | none => rfl
  | some d => cases hempty : d.fields.isEmpty <;> simp [Option.filter, hempty, putDraft]

theorem fire_snd (a : Autosave) (t : SaveTimer) :
  (a.fire t).2
    = ((a.draft? t.name).filter fun d => d.revision = t.revision ∧ !d.fields.isEmpty).map
      fun d => ⟨a.fresh, t.name, d.fields, d.revision⟩
  := by
  by_cases hrevision : (a.draft? t.name).map Draft.revision = some t.revision
  · obtain ⟨d, hd, heq⟩ := Option.map_eq_some_iff.mp hrevision
    have hforgotten :
        ((a.cancel (some t.id)).putDraft t.name { d with timer := none }).draft? t.name
          = some { d with timer := none } := Table.find?_put_self ..
    rw [a.fire_of_revision hd heq, flush_snd, hforgotten, hd]
    cases hempty : d.fields.isEmpty <;> simp [Option.filter, heq, hempty, putDraft]
  · rw [a.fire_of_ne_revision hrevision]
    cases hd : a.draft? t.name with
    | none => rfl
    | some d =>
        have hne : d.revision ≠ t.revision := by simpa [hd] using hrevision
        simp [Option.filter, hne]

theorem timersOf_filter_comm (a : Autosave) (p : SaveTimer → Bool) (name : String) :
  ((a.timers.filter p).filter fun t => t.name = name) = (a.timersOf name).filter p
  := by
  rw [timersOf, List.filter_filter, List.filter_filter]
  apply List.filter_congr
  intro t _
  apply Bool.and_comm

theorem timersOf_edit (a : Autosave) (now : Nat) (name field : String) (value : Json) :
  (a.edit now name field value).timersOf name
    = ((a.timersOf name).filter fun t => (a.draft? name).bind Draft.timer ≠ some t.id)
      ++ [⟨a.fresh, name, (a.begun name).revision + 1, now + waitLength a.debounce⟩]
  := by
  rw [timersOf, timers_edit, List.filter_append, timersOf_filter_comm]
  simp

theorem timersOf_flush (a : Autosave) (name : String) :
  (a.flush name).1.timersOf name
    = (a.timersOf name).filter fun t => (a.draft? name).bind Draft.timer ≠ some t.id
  := by
  rw [timersOf, timers_flush, timersOf_filter_comm]

theorem timersOf_fire (a : Autosave) (t : SaveTimer) (name : String) :
  (a.fire t).1.timersOf name = (a.timersOf name).filter fun other => some t.id ≠ some other.id
  := by
  rw [timersOf, fire_timers, timersOf_filter_comm]
  apply List.filter_congr
  intro other _
  simp [eq_comm]

theorem savesOf_append {b : Autosave} {sent : Option Save} (h : a.Sends name b sent) :
  b.savesOf name = a.savesOf name ++ sent.toList
  := by
  rw [savesOf, h.saves, List.filter_append, savesOf]
  cases sent with
  | none => rfl
  | some s => simp [(h.save s rfl).2.1]

section
variable (h : Copies f a b name) (ha : a.Wired) (hnext : f a.fresh = b.fresh)
include h hnext

/-- Copies stay copies when no number is given out, or the next number on both sides. -/
theorem Copies.change {a' b' : Autosave} {n : Nat} (hn : n ≤ 1) (hfresh : a'.fresh = a.fresh + n)
    (hfresh' : b'.fresh = b.fresh + n)
    (hdebounce : a'.debounce = a.debounce) (hdebounce' : b'.debounce = b.debounce)
    (hdraft : b'.draft? name = (a'.draft? name).map (Draft.renumber f))
    (htimers : b'.timersOf name = (a'.timersOf name).map (SaveTimer.renumber f))
    (hsaves : b'.savesOf name = (a'.savesOf name).map (Save.renumber f)) :
  Copies f a' b' name
  := by
  have hcases {i : Nat} (hi : i < a'.fresh) : i < a.fresh ∨ i = a.fresh ∧ n = 1 := by omega
  use ?_, ?_, ?_, hdraft, htimers, hsaves
  · intro i hi j hj hij
    obtain hi | ⟨rfl, _⟩ := hcases hi
    · obtain hj | ⟨rfl, _⟩ := hcases hj
      · apply h.injective i hi j hj hij
      · have hlt := h.lt i hi
        omega
    · obtain hj | ⟨rfl, _⟩ := hcases hj
      · have hlt := h.lt j hj
        omega
      · rfl
  · intro i hi
    obtain hi | ⟨rfl, hone⟩ := hcases hi
    · have hlt := h.lt i hi
      omega
    · omega
  · rw [hdebounce', h.debounce, hdebounce]

include ha

theorem Copies.edit (now : Nat) (field : String) (value : Json) :
  Copies f (a.edit now name field value) (b.edit now name field value) name
  := by
  have hbegun : b.begun name = (a.begun name).renumber f := by
    rw [begun, h.draft, begun]
    cases a.draft? name <;> rfl
  apply h.change hnext (Nat.le_refl 1) (by simp) (by simp)
  · apply debounce_step a (.edit now name field value)
  · apply debounce_step b (.edit now name field value)
  · rw [draft?_edit, draft?_edit, if_pos rfl, if_pos rfl, hbegun]
    simp [Draft.renumber, hnext]
  · rw [timersOf_edit, timersOf_edit, h.timer_eq,
      h.filter_timers ha.toNumbered _ fun id hid => ha.timer_lt hid, hbegun, h.debounce]
    simp [SaveTimer.renumber, Draft.renumber, hnext]
  · rw [savesOf, saves_edit, savesOf, saves_edit]
    apply h.saves

theorem Copies.flush :
  Copies f (a.flush name).1 (b.flush name).1 name
    ∧ (b.flush name).2 = (a.flush name).2.map (Save.renumber f)
  := by
  have hsent : (b.flush name).2 = (a.flush name).2.map (Save.renumber f) := by
    rw [flush_snd, flush_snd, h.draft]
    cases a.draft? name with
    | none => rfl
    | some d =>
        cases hempty : d.fields.isEmpty <;>
          simp [Option.filter, Draft.renumber, Save.renumber, hempty, hnext]
  use ?_, hsent
  have hn : (a.flush name).2.toList.length ≤ 1 := by cases (a.flush name).2 <;> simp
  apply h.change hnext hn (a.sends_flush name).fresh
  · rw [(b.sends_flush name).fresh, hsent]
    cases (a.flush name).2 <;> rfl
  · apply debounce_flush
  · apply debounce_flush
  · rw [draft?_flush, if_pos rfl, draft?_flush, if_pos rfl, h.draft]
    cases a.draft? name <;> rfl
  · rw [timersOf_flush, timersOf_flush, h.timer_eq,
      h.filter_timers ha.toNumbered _ fun id hid => ha.timer_lt hid]
  · rw [savesOf_append (b.sends_flush name), savesOf_append (a.sends_flush name), h.saves, hsent]
    cases (a.flush name).2 <;> simp

theorem Copies.fire (ht : t ∈ a.timersOf name) :
  Copies f (a.fire t).1 (b.fire (t.renumber f)).1 name
    ∧ (b.fire (t.renumber f)).2 = (a.fire t).2.map (Save.renumber f)
  := by
  obtain rfl : t.name = name := of_decide_eq_true (List.mem_filter.mp ht).2
  have hid := ha.toNumbered.id_lt_of_mem_timersOf ht
  have hsent : (b.fire (t.renumber f)).2 = (a.fire t).2.map (Save.renumber f) := by
    rw [fire_snd, fire_snd]
    simp only [SaveTimer.renumber, h.draft]
    cases a.draft? t.name with
    | none => rfl
    | some d =>
        by_cases hrevision : d.revision = t.revision <;> cases hempty : d.fields.isEmpty <;>
          simp [Option.filter, Draft.renumber, Save.renumber, hrevision, hempty, hnext]
  use ?_, hsent
  have hn : (a.fire t).2.toList.length ≤ 1 := by cases (a.fire t).2 <;> simp
  apply h.change hnext hn (a.sends_fire t).fresh
  · rw [(b.sends_fire (t.renumber f)).fresh, hsent]
    cases (a.fire t).2 <;> rfl
  · apply debounce_fire
  · apply debounce_fire
  · rw [draft?_fire, draft?_fire]
    simp only [SaveTimer.renumber, h.draft]
    cases a.draft? t.name with
    | none => simp
    | some d => by_cases hrevision : d.revision = t.revision <;> simp [Draft.renumber, hrevision]
  · rw [timersOf_fire, timersOf_fire]
    apply h.filter_timers ha.toNumbered (some t.id)
    intro id heq
    rw [← Option.some.inj heq]
    apply hid
  · have hb := savesOf_append (b.sends_fire (t.renumber f))
    have hname : (t.renumber f).name = t.name := rfl
    rw [hname] at hb
    rw [hb, savesOf_append (a.sends_fire t), h.saves, hsent]
    cases (a.fire t).2 <;> simp

end

theorem Copies.answer (h : Copies f a b name) (ha : a.Numbered) (hs : s ∈ a.savesOf name)
    (outcome : Except SaveError String) :
  Copies f (a.answer s outcome).1 (b.answer (s.renumber f) outcome).1 name
    ∧ (b.answer (s.renumber f) outcome).2 = (a.answer s outcome).2
  := by
  obtain rfl : s.name = name := of_decide_eq_true (List.mem_filter.mp hs).2
  have hid := ha.id_lt_of_mem_savesOf hs
  have hsaves (c : Autosave) (s : Save) : (c.answer s outcome).1.savesOf s.name
      = (c.savesOf s.name).filter fun other => other.id != s.id := by
    rw [savesOf, saves_answer, List.filter_filter, savesOf, List.filter_filter]
    apply List.filter_congr
    intro other _
    apply Bool.and_comm
  constructor
  · constructor
    · simpa using h.injective
    · simpa using h.lt
    · rw [answer_fst, answer_fst]
      apply h.debounce
    · rw [draft?_answer, draft?_answer]
      simp only [Save.renumber, h.draft]
      cases a.draft? s.name with
      | none => simp
      | some d =>
          by_cases hconfirmed : outcome.isOk ∧ d.revision = s.revision <;>
            simp [Draft.renumber, hconfirmed]
    · rw [timersOf, timers_answer, timersOf, timers_answer]
      apply h.timers
    · have hb := hsaves b (s.renumber f)
      rw [hsaves a s]
      apply hb.trans
      have hcopy : b.savesOf (s.renumber f).name = _ := h.saves
      rw [hcopy, List.filter_map]
      congr 1
      apply List.filter_congr
      intro other hother
      rw [Bool.eq_iff_iff, Function.comp_apply, bne_iff_ne, bne_iff_ne]
      apply not_congr
      use h.injective other.id (ha.id_lt_of_mem_savesOf hother) s.id hid
      apply congrArg f
  · cases outcome <;> rfl

/-- An input to a section and its counterpart in a copy. -/
inductive Counterpart (f : Nat → Nat) (a : Autosave) (name : String) :
    AutosaveInput → AutosaveInput → Prop
  | edit (now : Nat) (field : String) (value : Json) :
      Counterpart f a name (.edit now name field value) (.edit now name field value)
  | flush : Counterpart f a name (.flush name) (.flush name)
  | fire {t : SaveTimer} (mem : t ∈ a.timersOf name) :
      Counterpart f a name (.fire t.id) (.fire (f t.id))
  | answer {s : Save} (mem : s ∈ a.savesOf name) (reply : Except RequestError SettingsResponse) :
      Counterpart f a name (.answer s.id reply) (.answer (f s.id) reply)

theorem Counterpart.subject?_eq {x y : AutosaveInput} (ha : a.Numbered)
    (hxy : Counterpart f a name x y) :
  a.subject? x = some name
  := by
  cases hxy with
  | edit | flush => rfl
  | fire mem =>
      obtain ⟨ht, hname⟩ := List.mem_filter.mp mem
      rw [subject?, find?_of_nodup_ids ha.timers ht, Option.map_some, of_decide_eq_true hname]
  | answer mem reply =>
      obtain ⟨hs, hname⟩ := List.mem_filter.mp mem
      rw [subject?, find?_of_nodup_ids ha.saves hs, Option.map_some, of_decide_eq_true hname]

/-- Counterparts do the same to copies. -/
theorem Copies.step {x y : AutosaveInput} (h : Copies f a b name) (ha : a.Wired)
    (hb : b.Numbered) (hnext : f a.fresh = b.fresh) (hxy : Counterpart f a name x y) :
  Copies f (a.step x).1 (b.step y).1 name
    ∧ (b.step y).2.1 = (a.step x).2.1.map (Save.renumber f)
    ∧ (b.step y).2.2 = (a.step x).2.2
  := by
  cases hxy with
  | edit now field value =>
      use h.edit ha hnext now field value
      constructor <;> rfl
  | flush =>
      obtain ⟨hcopies, hsent⟩ := h.flush ha hnext
      use hcopies, hsent
      rfl
  | @fire t mem =>
      obtain ⟨hcopies, hsent⟩ := h.fire ha hnext mem
      have ht' := (List.mem_filter.mp (h.renumber_mem_timers mem)).1
      rw [a.step_fire_of_mem ha.toNumbered (List.mem_filter.mp mem).1]
      have hstep : b.step (.fire (f t.id)) = _ := b.step_fire_of_mem hb ht'
      rw [hstep]
      use hcopies, hsent
  | @answer s mem reply =>
      obtain ⟨hs, hname⟩ := List.mem_filter.mp mem
      obtain ⟨hcopies, heffects⟩ := h.answer ha.toNumbered mem (s.outcome reply)
      have hs' := (h.renumber_mem_saves_iff ha.toNumbered (of_decide_eq_true hname)
        (ha.savesFresh s hs)).mpr hs
      rw [a.step_answer_of_find? (find?_of_nodup_ids ha.saves hs)]
      have hstep : b.step (.answer (f s.id) reply) = _ :=
        b.step_answer_of_find? (find?_of_nodup_ids hb.saves hs') reply
      rw [hstep]
      use hcopies, rfl
      apply heffects

end Autosave

end Greenhouse
