import Greenhouse.Proofs.Autosave.Renaming

/-!
# Sections do not interfere

All sections are kept in one table, and their timers and saves in one list each.  Nevertheless what
is seen of a section depends only on what is done to that section: on its edits, on when it is
closed, on the answers to its saves, and on the times of all this.

A `Ledger` is autosave with a record of what it has sent and published.  Before anything is done at
some time, the timers that are due before that time run down, in the order of their times, whichever
sections they belong to.  The proof compares a run with what is left of it when everything that is
done to other sections is struck out: the second is a copy of the first as far as the section is
concerned, with other numbers.
-/

namespace Greenhouse

/-- Something that is done to a section. -/
inductive SectionInput where
  | edit (field : String) (value : Json)
  | close
  /-- A timer that is due at this very moment runs down.  Of timers that are due before an act none
  is left when it is done, but whether one that is due together with an act runs down before it or
  after it is part of what is done to the section. -/
  | lapse
  /-- The save that was sent as this one of the section is answered, the first being number 0. -/
  | answer (save : Nat) (reply : Except RequestError SettingsResponse)
deriving DecidableEq

/-- Something that is done to one of the sections, and when. -/
structure SectionAct where
  time : Nat
  name : String
  input : SectionInput
deriving DecidableEq

/-- What is seen of a section. -/
structure SectionView where
  /-- The save requests and when they were sent. -/
  requests : List (Nat × SettingsRequest)
  /-- The events and when they were published. -/
  events : List (Nat × Event)
  /-- The unsaved fields. -/
  fields : Option SettingsFields
  /-- Whether the section is listed among those with unsaved edits. -/
  isPending : Bool
deriving DecidableEq

/-- The section that an event is about. -/
def Event.section? : Event → Option String
  | .settingsSaved name _ | .settingsFailed name _ => some name
  | _ => none

/-- Every event is about the section that the input concerns. -/
theorem Autosave.section?_of_published {a : Autosave} {x : AutosaveInput} {e : Event}
    (h : e ∈ (a.step x).2.2.filterMap Effect.event?) :
  e.section? = a.subject? x
  := by
  obtain ⟨now, name, field, value, rfl⟩ | ⟨name, b, sent, _, heq, _⟩
    | ⟨s, outcome, _, hsubject, heq⟩ := a.step_cases x
  · nomatch h
  · rw [heq] at h
    nomatch h
  · rw [heq] at h
    rw [hsubject]
    cases outcome with
    | ok bcc =>
        obtain rfl : .settingsSaved s.name bcc = e := by
          simpa [answer, announce, Effect.event?] using h
        rfl
    | error cause =>
        obtain rfl : .settingsFailed s.name cause.message = e := by
          simpa [answer, announce, Effect.event?] using h
        rfl

/-- Autosave with a record of what it has sent and published, and when. -/
structure Ledger where
  autosave : Autosave
  sent : List (Nat × Save)
  published : List (Nat × Event)

/-! ### The timer that is due first -/

namespace Autosave

/-- The timer that is due first, and of several the one that was started first. -/
def earliest (timers : List SaveTimer) : Option SaveTimer :=
  timers.foldl (fun best t => match best with
    | some b => if t.due < b.due then some t else some b
    | none => some t) none

theorem next?_eq_earliest (a : Autosave) : a.next? = earliest a.timers := rfl

variable {timers : List SaveTimer} {t : SaveTimer}

theorem earliest_append_singleton (timers : List SaveTimer) (t : SaveTimer) :
  earliest (timers ++ [t])
    = match earliest timers with
      | some b => if t.due < b.due then some t else some b
      | none => some t
  := by
  rw [earliest, List.foldl_append]
  rfl

theorem earliest_eq_none (h : earliest timers = none) :
  timers = []
  := by
  cases timers using List.reverseRecOn with
  | nil => rfl
  | append_singleton timers t =>
      rw [earliest_append_singleton] at h
      split at h
      · split at h <;> nomatch h
      · nomatch h

/-- The timers before the one that is due first are due later, and those after it are not due
earlier. -/
theorem exists_split_of_earliest (h : earliest timers = some t) :
  ∃ before after, timers = before ++ t :: after ∧ (∀ u ∈ before, t.due < u.due)
    ∧ ∀ u ∈ after, t.due ≤ u.due
  := by
  induction timers using List.reverseRecOn generalizing t with
  | nil => nomatch h
  | append_singleton timers u ih =>
      rw [earliest_append_singleton] at h
      cases hbest : earliest timers with
      | none =>
          rw [hbest] at h
          obtain rfl := Option.some.inj h
          rw [earliest_eq_none hbest]
          use [], []
          simp
      | some b =>
          obtain ⟨before, after, rfl, hbefore, hafter⟩ := ih hbest
          simp only [hbest] at h
          split at h
          · next hlt =>
              obtain rfl := Option.some.inj h
              use before ++ b :: after, [], rfl
              constructor
              · intro v hv
                obtain hv | hv := List.mem_append.mp hv
                · apply Nat.lt_trans hlt (hbefore v hv)
                · obtain rfl | hv := List.mem_cons.mp hv
                  · apply hlt
                  · apply Nat.lt_of_lt_of_le hlt (hafter v hv)
              · simp
          · next hle =>
              obtain rfl := Option.some.inj h
              use before, after ++ [u]
              constructor
              · simp
              · use hbefore
                intro v hv
                obtain hv | hv := List.mem_append.mp hv
                · apply hafter v hv
                · rw [List.mem_singleton.mp hv]
                  apply Nat.not_lt.mp hle

theorem earliest_of_split {before after : List SaveTimer} (hbefore : ∀ u ∈ before, t.due < u.due)
    (hafter : ∀ u ∈ after, t.due ≤ u.due) :
  earliest (before ++ t :: after) = some t
  := by
  induction after using List.reverseRecOn with
  | nil =>
      rw [earliest_append_singleton]
      cases hbest : earliest before with
      | none => rfl
      | some b =>
          obtain ⟨front, back, rfl, _⟩ := exists_split_of_earliest hbest
          have hlt := hbefore b (by simp)
          simp [hlt]
  | append_singleton after u ih =>
      have hsplit : before ++ t :: (after ++ [u]) = (before ++ t :: after) ++ [u] := by simp
      rw [hsplit, earliest_append_singleton, ih fun v hv => hafter v (List.mem_append_left _ hv)]
      have hle := hafter u (by simp)
      simp [Nat.not_lt.mpr hle]

theorem mem_of_earliest (h : earliest timers = some t) :
  t ∈ timers
  := by
  obtain ⟨before, after, rfl, _⟩ := exists_split_of_earliest h
  simp

theorem due_le_of_earliest (h : earliest timers = some t) {u : SaveTimer} (hu : u ∈ timers) :
  t.due ≤ u.due
  := by
  obtain ⟨before, after, rfl, hbefore, hafter⟩ := exists_split_of_earliest h
  obtain hu | hu := List.mem_append.mp hu
  · apply Nat.le_of_lt (hbefore u hu)
  · obtain rfl | hu := List.mem_cons.mp hu
    · apply Nat.le_refl
    · apply hafter u hu

/-- The timer that is due first is also the first among some of the timers. -/
theorem earliest_filter (h : earliest timers = some t) {p : SaveTimer → Bool} (hp : p t = true) :
  earliest (timers.filter p) = some t
  := by
  obtain ⟨before, after, rfl, hbefore, hafter⟩ := exists_split_of_earliest h
  rw [List.filter_append, List.filter_cons_of_pos hp]
  apply earliest_of_split
  · intro u hu
    apply hbefore u (List.mem_filter.mp hu).1
  · intro u hu
    apply hafter u (List.mem_filter.mp hu).1

theorem earliest_map_renumber (f : Nat → Nat) (timers : List SaveTimer) :
  earliest (timers.map (SaveTimer.renumber f)) = (earliest timers).map (SaveTimer.renumber f)
  := by
  induction timers using List.reverseRecOn with
  | nil => rfl
  | append_singleton timers t ih =>
      rw [List.map_append, List.map_singleton, earliest_append_singleton, ih,
        earliest_append_singleton]
      cases earliest timers with
      | none => rfl
      | some b => by_cases hlt : t.due < b.due <;> simp [SaveTimer.renumber, hlt]

end Autosave

namespace Ledger

/-! ### Runs -/

/-- Nothing has been edited. -/
def ofDebounce (debounce : Nat) : Ledger := ⟨.ofDebounce debounce, [], []⟩

/-- An input to autosave, with what is sent and published. -/
def take (l : Ledger) (now : Nat) (x : AutosaveInput) : Ledger where
  autosave := (l.autosave.step x).1
  sent := l.sent ++ (l.autosave.step x).2.1.toList.map fun s => (now, s)
  published :=
    l.published ++ ((l.autosave.step x).2.2.filterMap Effect.event?).map fun e => (now, e)

/-- What was sent of a section. -/
def sentOf (l : Ledger) (name : String) : List (Nat × Save) :=
  l.sent.filter fun (_, s) => s.name = name

/-- What was published about a section. -/
def publishedOf (l : Ledger) (name : String) : List (Nat × Event) :=
  l.published.filter fun (_, e) => e.section? = some name

theorem length_timers_take_lt {l : Ledger} {t : SaveTimer} (h : l.autosave.next? = some t)
    (now : Nat) :
  (l.take now (.fire t.id)).autosave.timers.length < l.autosave.timers.length
  := by
  have ht : t ∈ l.autosave.timers := Autosave.mem_of_earliest h
  cases hfind : l.autosave.timers.find? fun t' => t'.id = t.id with
  | none =>
      have hne := List.find?_eq_none.mp hfind t ht
      simp at hne
  | some t' =>
      have hid : t'.id = t.id := by simpa using List.find?_some hfind
      simp only [take, l.autosave.step_fire_of_find? hfind, Autosave.fire_timers]
      apply List.length_filter_lt_length_iff_exists.mpr
      use t, ht
      simp [hid]

/-- The timers that are due before a moment run down, one after the other. -/
def elapse (moment : Nat) (l : Ledger) : Ledger :=
  match _h : l.autosave.next? with
  | none => l
  | some t => if t.due < moment then (l.take t.due (.fire t.id)).elapse moment else l
termination_by l.autosave.timers.length
decreasing_by
  apply length_timers_take_lt
  assumption

/-- Something is done to a section. -/
def perform (l : Ledger) (now : Nat) (name : String) : SectionInput → Ledger
  | .edit field value => l.take now (.edit now name field value)
  | .close => l.take now (.flush name)
  | .lapse =>
    match Autosave.earliest (l.autosave.timersOf name) with
    | some t => if t.due ≤ now then l.take now (.fire t.id) else l
    | none => l
  | .answer save reply =>
    match (l.sentOf name)[save]? with
    | some (_, s) => l.take now (.answer s.id reply)
    | none => l

/-- Something is done to one of the sections, after what was due before. -/
def step (l : Ledger) (act : SectionAct) : Ledger :=
  (l.elapse act.time).perform act.time act.name act.input

/-- The ledger after a run, from nothing. -/
def run (debounce : Nat) (acts : List SectionAct) : Ledger :=
  acts.foldl step (.ofDebounce debounce)

/-- The ledger at a moment of a run, when everything up to then has been done and the timers that
were due before have run down. -/
def upTo (debounce : Nat) (acts : List SectionAct) (moment : Nat) : Ledger :=
  (run debounce (acts.filter fun act => act.time ≤ moment)).elapse moment

/-- What is seen of a section. -/
def view (l : Ledger) (name : String) : SectionView where
  requests := (l.sentOf name).map fun (time, s) => (time, s.request)
  events := l.publishedOf name
  fields := l.autosave.pending? name
  isPending := name ∈ l.autosave.pendingNames

/-- The acts are in the order of their times. -/
def Timely (acts : List SectionAct) : Prop :=
  acts.Pairwise fun earlier later => earlier.time ≤ later.time

instance (acts : List SectionAct) : Decidable (Timely acts) :=
  inferInstanceAs (Decidable (List.Pairwise _ _))

/-- What is done to a section. -/
def actsOn (name : String) (acts : List SectionAct) : List SectionAct :=
  acts.filter fun act => act.name = name

section
variable {l : Ledger} {t : SaveTimer} {moment : Nat}

theorem elapse_of_due (h : l.autosave.next? = some t) (hdue : t.due < moment) :
  l.elapse moment = (l.take t.due (.fire t.id)).elapse moment
  := by
  rw [elapse]
  split
  · next hnone =>
      rw [h] at hnone
      nomatch hnone
  · next t' ht' =>
      rw [h] at ht'
      obtain rfl := Option.some.inj ht'
      apply if_pos hdue

theorem elapse_of_rest (h : ∀ t, l.autosave.next? = some t → moment ≤ t.due) :
  l.elapse moment = l
  := by
  rw [elapse]
  split
  · rfl
  · next t ht =>
      apply if_neg
      apply Nat.not_lt.mpr (h t ht)

/-- What holds of a ledger and is kept when the next timer that is due runs down holds when all have
run down. -/
theorem elapse_induction {motive : Ledger → Prop} (moment : Nat)
    (rest : ∀ l : Ledger, (∀ t, l.autosave.next? = some t → moment ≤ t.due) → motive l)
    (due : ∀ (l : Ledger) (t : SaveTimer), l.autosave.next? = some t → t.due < moment →
      motive (l.take t.due (.fire t.id)) → motive l)
    (l : Ledger) :
  motive l
  := by
  induction l using elapse.induct moment with
  | case1 l hnone =>
      apply rest
      intro t ht
      rw [hnone] at ht
      nomatch ht
  | case2 l t ht hdue ih => apply due l t ht hdue ih
  | case3 l t ht hrest =>
      apply rest
      intro t' ht'
      rw [ht] at ht'
      rw [← Option.some.inj ht']
      apply Nat.not_lt.mp hrest

/-- Time passes in one go or in two. -/
theorem elapse_elapse {earlier : Nat} (h : earlier ≤ moment) (l : Ledger) :
  (l.elapse earlier).elapse moment = l.elapse moment
  := by
  induction l using elapse_induction earlier with
  | rest l hrest => rw [elapse_of_rest hrest]
  | due l t ht hdue ih =>
      rw [elapse_of_due ht hdue, ih, elapse_of_due ht (Nat.lt_of_lt_of_le hdue h)]

end

/-! ### What holds of every ledger -/

/-- Every save under way is in the record, and the saves there are told apart by their numbers. -/
structure Sound (l : Ledger) : Prop where
  wired : l.autosave.Wired
  recorded : ∀ s ∈ l.autosave.saves, s ∈ l.sent.map Prod.snd
  numbered : ((l.sent.map Prod.snd).map Save.id).Nodup
  fresh : ∀ s ∈ l.sent.map Prod.snd, s.id < l.autosave.fresh

variable {l : Ledger} {s : Save}

theorem sound_ofDebounce (debounce : Nat) :
  Sound (ofDebounce debounce)
  := by
  use Autosave.wired_ofDebounce debounce <;> simp [ofDebounce, Autosave.ofDebounce]

theorem map_snd_take (l : Ledger) (now : Nat) (x : AutosaveInput) :
  (l.take now x).sent.map Prod.snd
    = l.sent.map Prod.snd ++ (l.autosave.step x).2.1.toList
  := by
  simp [take, Function.comp_def]

theorem Sound.take (h : l.Sound) (now : Nat) (x : AutosaveInput) :
  (l.take now x).Sound
  := by
  have hfresh := l.autosave.fresh_le_step x
  use h.wired.step x
  · intro s hs
    rw [map_snd_take]
    apply List.mem_append.mpr
    obtain hs | hs := Autosave.mem_saves_or_sent hs
    · left
      apply h.recorded s hs
    · right
      apply Option.mem_toList.mpr hs
  · rw [map_snd_take]
    cases hsent : (l.autosave.step x).2.1 with
    | none => simpa using h.numbered
    | some s =>
        apply Autosave.nodup_map_append h.numbered (List.Sublist.refl _)
        intro s' hs'
        rw [(Autosave.eq_of_sent hsent).1]
        apply h.fresh s' hs'
  · intro s hs
    rw [map_snd_take] at hs
    obtain hs | hs := List.mem_append.mp hs
    · apply Nat.lt_of_lt_of_le (h.fresh s hs) hfresh
    · obtain ⟨hid, hlt, _⟩ := Autosave.eq_of_sent (Option.mem_toList.mp hs)
      rw [hid]
      apply hlt

/-- A save in the record is found by its number as long as it is under way. -/
theorem Sound.find?_saves (h : l.Sound) (hs : s ∈ l.sent.map Prod.snd) :
  (l.autosave.saves.find? fun s' => s'.id = s.id) = if s ∈ l.autosave.saves then some s else none
  := by
  split
  · next hmem => apply Autosave.find?_of_nodup_ids h.wired.saves hmem
  · next hmem =>
      apply List.find?_eq_none.mpr
      intro s' hs' hid
      apply hmem
      rw [← List.inj_on_of_nodup_map h.numbered (h.recorded s' hs') hs (by simpa using hid)]
      apply hs'

theorem mem_sent_of_sentOf {name : String} {save time : Nat}
    (h : (l.sentOf name)[save]? = some (time, s)) :
  s ∈ l.sent.map Prod.snd ∧ s.name = name
  := by
  obtain ⟨hmem, hname⟩ := List.mem_filter.mp (List.mem_of_getElem? h)
  use List.mem_map_of_mem hmem, of_decide_eq_true hname

/-- An answer to a save that has been answered changes nothing. -/
theorem take_answered {save : Nat} (h : (l.autosave.saves.find? fun s => s.id = save) = none)
    (now : Nat) (reply : Except RequestError SettingsResponse) :
  l.take now (.answer save reply) = l
  := by
  simp [take, Autosave.step, h]

theorem Sound.elapse (h : l.Sound) (moment : Nat) :
  (l.elapse moment).Sound
  := by
  induction l using elapse_induction moment with
  | rest l hrest =>
      rw [elapse_of_rest hrest]
      apply h
  | due l t ht hdue ih =>
      rw [elapse_of_due ht hdue]
      apply ih (h.take ..)

theorem Sound.perform (h : l.Sound) (now : Nat) (name : String) (x : SectionInput) :
  (l.perform now name x).Sound
  := by
  cases x with
  | edit field value => apply h.take
  | close => apply h.take
  | lapse =>
      simp only [Ledger.perform]
      split
      · split
        · apply h.take
        · apply h
      · apply h
  | answer save reply =>
      simp only [Ledger.perform]
      split
      · apply h.take
      · apply h

theorem sound_run (debounce : Nat) (acts : List SectionAct) :
  (run debounce acts).Sound
  := by
  induction acts using List.reverseRecOn with
  | nil => apply sound_ofDebounce
  | append_singleton acts act ih =>
      rw [run, List.foldl_append]
      apply (ih.elapse act.time).perform

/-! ### Copies of a section -/

/-- The second ledger has of a section what the first has of it, with other numbers, and the first
has no other timers. -/
structure Echoes (f : Nat → Nat) (small large : Ledger) (name : String) : Prop where
  copies : small.autosave.Copies f large.autosave name
  own : ∀ t ∈ small.autosave.timers, t.name = name
  sent : large.sentOf name = (small.sentOf name).map fun (time, s) => (time, s.renumber f)
  published : large.publishedOf name = small.publishedOf name

variable {f : Nat → Nat} {small large : Ledger} {name : String}

theorem sentOf_take (l : Ledger) (now : Nat) (x : AutosaveInput) (name : String) :
  (l.take now x).sentOf name
    = l.sentOf name
      ++ ((l.autosave.step x).2.1.toList.map fun s => (now, s)).filter fun (_, s) => s.name = name
  := List.filter_append ..

theorem publishedOf_take (l : Ledger) (now : Nat) (x : AutosaveInput) (name : String) :
  (l.take now x).publishedOf name
    = l.publishedOf name
      ++ (((l.autosave.step x).2.2.filterMap Effect.event?).map fun e => (now, e)).filter
        fun (_, e) => e.section? = some name
  := List.filter_append ..

/-- The next numbers can be made to fit. -/
theorem Echoes.exists_next (h : Echoes f small large name) (hs : small.Sound) :
  ∃ g, Echoes g small large name ∧ g small.autosave.fresh = large.autosave.fresh
  := by
  obtain ⟨g, hcopies, hnext, hg⟩ := h.copies.exists_next hs.wired
  use g
  refine ⟨⟨hcopies, h.own, ?_, h.published⟩, hnext⟩
  rw [h.sent]
  apply List.map_congr_left
  rintro ⟨time, s⟩ hmem
  have hid := hs.fresh s (List.mem_map_of_mem (List.mem_filter.mp hmem).1)
  simp only [Save.renumber, hg s.id hid]

/-- Counterparts keep what a ledger has of a section and its copy. -/
theorem Echoes.take (h : Echoes f small large name) (hs : small.Sound) (hl : large.Sound)
    (hnext : f small.autosave.fresh = large.autosave.fresh) (now : Nat) {x y : AutosaveInput}
    (hxy : small.autosave.Counterpart f name x y) :
  Echoes f (small.take now x) (large.take now y) name
  := by
  obtain ⟨hcopies, hsent, heffects⟩ := h.copies.step hs.wired hl.wired.toNumbered hnext hxy
  use hcopies
  · intro t ht
    obtain hold | hsubject := Autosave.mem_timers_or_subject? ht
    · apply h.own t hold
    · rw [hxy.subject?_eq hs.wired.toNumbered] at hsubject
      rw [Option.some.inj hsubject]
  · rw [sentOf_take, sentOf_take, h.sent, hsent, List.map_append]
    congr 1
    cases (small.autosave.step x).2.1 with
    | none => rfl
    | some s => by_cases hname : s.name = name <;> simp [Save.renumber, hname]
  · rw [publishedOf_take, publishedOf_take, h.published, heffects]

/-- What is done to another section changes nothing. -/
theorem Echoes.take_other (h : Echoes f small large name) (hl : large.Sound) (now : Nat)
    {x : AutosaveInput} (hx : large.autosave.subject? x ≠ some name) :
  Echoes f small (large.take now x) name
  := by
  use h.copies.of_alike (hl.wired.alike_step hx) (Autosave.debounce_step ..)
    (Autosave.fresh_le_step ..), h.own
  · rw [sentOf_take, h.sent]
    cases hsent : (large.autosave.step x).2.1 with
    | none => simp
    | some s =>
        have hname : s.name ≠ name := by
          rintro rfl
          apply hx (Autosave.eq_of_sent hsent).2.2
        simp [hname]
  · rw [publishedOf_take, h.published]
    apply List.append_right_eq_self.mpr
    apply List.filter_eq_nil_iff.mpr
    intro entry hentry
    obtain ⟨e, he, rfl⟩ := List.mem_map.mp hentry
    simpa [Autosave.section?_of_published he] using hx

/-- What is due before a moment runs down on both sides. -/
theorem Echoes.elapse (h : Echoes f small large name) (hs : small.Sound) (hl : large.Sound)
    (moment : Nat) :
  ∃ g, Echoes g (small.elapse moment) (large.elapse moment) name
  := by
  induction large using elapse_induction moment generalizing f small with
  | rest large hrest =>
      have hsmall (t : SaveTimer) (ht : small.autosave.next? = some t) : moment ≤ t.due := by
        have hmem := Autosave.mem_of_earliest ht
        have hmem' := (List.mem_filter.mp (h.copies.renumber_mem_timers
          (List.mem_filter.mpr ⟨hmem, decide_eq_true (h.own t hmem)⟩))).1
        cases hnext : large.autosave.next? with
        | none =>
            rw [Autosave.earliest_eq_none hnext] at hmem'
            nomatch hmem'
        | some t' =>
            apply Nat.le_trans (hrest t' hnext)
            apply Autosave.due_le_of_earliest hnext hmem'
      rw [elapse_of_rest hrest, elapse_of_rest hsmall]
      use f
  | due large t ht hdue ih =>
      have hmem := Autosave.mem_of_earliest ht
      rw [elapse_of_due ht hdue]
      by_cases hname : t.name = name
      · -- the section has the same timer in the copy, and it is the first there as well
        obtain ⟨g, h, hnext⟩ := h.exists_next hs
        have hfirst : Autosave.earliest (large.autosave.timersOf name) = some t :=
          Autosave.earliest_filter ht (decide_eq_true hname)
        rw [h.copies.timers, Autosave.earliest_map_renumber] at hfirst
        obtain ⟨t', ht', rfl⟩ := Option.map_eq_some_iff.mp hfirst
        have hown : small.autosave.timersOf name = small.autosave.timers := by
          apply List.filter_eq_self.mpr
          intro t ht
          apply decide_eq_true (h.own t ht)
        have hmem' := Autosave.mem_of_earliest ht'
        rw [hown] at ht'
        rw [elapse_of_due ht' hdue]
        apply ih (h.take hs hl hnext t'.due (.fire hmem')) (hs.take ..) (hl.take ..)
      · apply ih (h.take_other hl t.due _) hs (hl.take ..)
        rw [Autosave.subject?, Autosave.find?_of_nodup_ids hl.wired.timers hmem]
        simpa using hname

/-- What is done to the section is done on both sides. -/
theorem Echoes.perform (h : Echoes f small large name) (hs : small.Sound) (hl : large.Sound)
    (now : Nat) (x : SectionInput) :
  ∃ g, Echoes g (small.perform now name x) (large.perform now name x) name
  := by
  obtain ⟨g, h, hnext⟩ := h.exists_next hs
  use g
  cases x with
  | edit field value => apply h.take hs hl hnext now (.edit now field value)
  | close => apply h.take hs hl hnext now .flush
  | lapse =>
      simp only [Ledger.perform]
      rw [h.copies.timers, Autosave.earliest_map_renumber]
      cases hfirst : Autosave.earliest (small.autosave.timersOf name) with
      | none => apply h
      | some t =>
          have hmem := Autosave.mem_of_earliest hfirst
          simp only [Option.map_some]
          by_cases hdue : t.due ≤ now
          · rw [if_pos hdue, if_pos (show (t.renumber g).due ≤ now from hdue)]
            apply h.take hs hl hnext now (.fire hmem)
          · rw [if_neg hdue, if_neg (show ¬ (t.renumber g).due ≤ now from hdue)]
            apply h
  | answer save reply =>
      simp only [Ledger.perform]
      rw [h.sent, List.getElem?_map]
      cases hsent : (small.sentOf name)[save]? with
      | none => apply h
      | some entry =>
          obtain ⟨time, s⟩ := entry
          obtain ⟨hmem, hname⟩ := mem_sent_of_sentOf hsent
          have hsent' : (large.sentOf name)[save]? = some (time, s.renumber g) := by
            rw [h.sent, List.getElem?_map, hsent]
            rfl
          have hmem' := (mem_sent_of_sentOf hsent').1
          have hiff := h.copies.renumber_mem_saves_iff hs.wired.toNumbered hname (hs.fresh s hmem)
          simp only [Option.map_some]
          by_cases hunder : s ∈ small.autosave.saves
          · apply h.take hs hl hnext now (.answer _ reply)
            apply List.mem_filter.mpr ⟨hunder, decide_eq_true hname⟩
          · have hnone : (small.autosave.saves.find? fun s' => s'.id = s.id) = none := by
              rw [hs.find?_saves hmem, if_neg hunder]
            have hnone' :
                (large.autosave.saves.find? fun s' => s'.id = (s.renumber g).id) = none := by
              rw [hl.find?_saves hmem', if_neg fun h => hunder (hiff.mp h)]
            rw [take_answered hnone, take_answered hnone']
            apply h

/-- What is done to another section does not matter. -/
theorem Echoes.perform_other (h : Echoes f small large name) (hl : large.Sound) (now : Nat)
    {other : String} (hother : other ≠ name) (x : SectionInput) :
  Echoes f small (large.perform now other x) name
  := by
  have hne : some other ≠ some name := fun heq => hother (Option.some.inj heq)
  cases x with
  | edit field value => exact h.take_other hl now hne
  | close => exact h.take_other hl now hne
  | lapse =>
      simp only [Ledger.perform]
      cases hfirst : Autosave.earliest (large.autosave.timersOf other) with
      | none => apply h
      | some t =>
          obtain ⟨hmem, hname⟩ := List.mem_filter.mp (Autosave.mem_of_earliest hfirst)
          simp only
          split
          · apply h.take_other hl now
            rw [Autosave.subject?, Autosave.find?_of_nodup_ids hl.wired.timers hmem,
              Option.map_some, of_decide_eq_true hname]
            apply hne
          · apply h
  | answer save reply =>
      simp only [Ledger.perform]
      cases hsent : (large.sentOf other)[save]? with
      | none => apply h
      | some entry =>
          obtain ⟨time, s⟩ := entry
          obtain ⟨hmem, hname⟩ := mem_sent_of_sentOf hsent
          apply h.take_other hl now
          rw [Autosave.subject?, hl.find?_saves hmem]
          split
          · rw [Option.map_some, hname]
            apply hne
          · rintro ⟨⟩

/-! ### Runs compared -/

/-- A run, and what is left of it for one section. -/
theorem exists_echoes (debounce : Nat) (name : String) {acts : List SectionAct} (moment : Nat)
    (htimely : Timely acts) (hmoment : ∀ act ∈ acts, act.time ≤ moment) :
  ∃ f, Echoes f ((run debounce (actsOn name acts)).elapse moment)
    ((run debounce acts).elapse moment) name
  := by
  induction acts using List.reverseRecOn generalizing moment with
  | nil =>
      have hnothing : Echoes id (ofDebounce debounce) (ofDebounce debounce) name := by
        constructor
        · constructor <;> simp [ofDebounce, Autosave.ofDebounce, Autosave.draft?,
            Autosave.timersOf, Autosave.savesOf]
        · simp [ofDebounce, Autosave.ofDebounce]
        · rfl
        · rfl
      apply hnothing.elapse (sound_ofDebounce debounce) (sound_ofDebounce debounce)
  | append_singleton acts act ih =>
      obtain ⟨htimely, _, hlast⟩ := List.pairwise_append.mp htimely
      have hact := hmoment act (List.mem_append_right _ (List.mem_singleton_self act))
      obtain ⟨f, h⟩ := ih act.time htimely fun a ha => hlast a ha act (List.mem_singleton_self act)
      have hs := (sound_run debounce (actsOn name acts)).elapse act.time
      have hl := (sound_run debounce acts).elapse act.time
      have hrun : run debounce (acts ++ [act]) = (run debounce acts).step act := by
        rw [run, List.foldl_append]
        rfl
      rw [hrun]
      by_cases hname : act.name = name
      · have hown : run debounce (actsOn name (acts ++ [act]))
            = (run debounce (actsOn name acts)).step act := by
          have hcons : actsOn name (acts ++ [act]) = actsOn name acts ++ [act] := by
            simp [actsOn, hname]
          rw [hcons, run, List.foldl_append]
          rfl
        subst hname
        obtain ⟨g, h⟩ := h.perform hs hl act.time act.input
        rw [hown]
        apply h.elapse (hs.perform ..) (hl.perform ..)
      · have hown : actsOn name (acts ++ [act]) = actsOn name acts := by
          simp [actsOn, hname]
        have h := h.perform_other hl act.time hname act.input
        rw [hown, ← elapse_elapse hact (run debounce (actsOn name acts))]
        apply h.elapse hs (hl.perform ..)

/-- A copy of a section is seen in the same way. -/
theorem Echoes.view_eq (h : Echoes f small large name) (hs : small.Sound) (hl : large.Sound) :
  large.view name = small.view name
  := by
  have hpending : name ∈ large.autosave.pendingNames ↔ name ∈ small.autosave.pendingNames := by
    rw [hl.wired.mem_pendingNames_iff, hs.wired.mem_pendingNames_iff, h.copies.draft]
    simp
  have hfields : large.autosave.pending? name = small.autosave.pending? name := by
    rw [Autosave.pending?, h.copies.draft, Autosave.pending?]
    cases small.autosave.draft? name <;> rfl
  simp only [view, h.sent, h.published, hpending, hfields, List.map_map]
  rfl

/-- In two runs in which the same is done to a section at the same times, the same is seen of the
section at every moment, whatever is done to the others. -/
theorem view_upTo_eq_of_actsOn_eq (debounce : Nat) (name : String) {acts acts' : List SectionAct}
    (htimely : Timely acts) (htimely' : Timely acts')
    (hsame : actsOn name acts = actsOn name acts') (moment : Nat) :
  (upTo debounce acts moment).view name = (upTo debounce acts' moment).view name
  := by
  have hview {acts : List SectionAct} (h : Timely acts) :
      (upTo debounce acts moment).view name
        = (upTo debounce (actsOn name acts) moment).view name := by
    have hcomm : (actsOn name acts).filter (fun act => act.time ≤ moment)
        = actsOn name (acts.filter fun act => act.time ≤ moment) := by
      rw [actsOn, actsOn, List.filter_filter, List.filter_filter]
      apply List.filter_congr
      intro act _
      apply Bool.and_comm
    obtain ⟨f, hechoes⟩ := exists_echoes debounce name moment (h.sublist
      (List.filter_sublist (p := fun act => act.time ≤ moment)))
      (by simp)
    rw [upTo, upTo, hcomm]
    apply hechoes.view_eq ((sound_run ..).elapse moment) ((sound_run ..).elapse moment)
  rw [hview htimely, hsame, hview htimely']

/-- Two sections are edited by turns, and their saves are answered late. -/
def byTurns : List SectionAct :=
  [⟨0, "m", .edit "a" (.int 1)⟩, ⟨10, "n", .edit "b" (.int 2)⟩, ⟨20, "n", .close⟩,
    ⟨900, "m", .edit "a" (.int 3)⟩, ⟨1950, "n", .answer 0 (.error (.decode "no reply"))⟩,
    ⟨2000, "m", .answer 0 (.ok ⟨"success", some "A", none⟩)⟩]

/-- The same is done to one of the sections, and something else to the other. -/
def byOtherTurns : List SectionAct :=
  [⟨0, "m", .edit "a" (.int 1)⟩, ⟨500, "n", .edit "c" (.int 4)⟩,
    ⟨900, "m", .edit "a" (.int 3)⟩, ⟨1600, "n", .answer 0 (.ok ⟨"success", some "B", none⟩)⟩,
    ⟨1700, "n", .edit "d" (.int 5)⟩, ⟨2000, "m", .answer 0 (.ok ⟨"success", some "A", none⟩)⟩]

theorem view_upTo_eq_of_actsOn_eq_byTurns :
  Timely byTurns ∧ Timely byOtherTurns ∧ actsOn "m" byTurns = actsOn "m" byOtherTurns
    ∧ actsOn "n" byTurns ≠ actsOn "n" byOtherTurns
    ∧ (upTo 1000 byTurns 2500).view "m" = (upTo 1000 byOtherTurns 2500).view "m"
  := by
  have htimely : Timely byTurns := by decide
  have htimely' : Timely byOtherTurns := by decide
  have hsame : actsOn "m" byTurns = actsOn "m" byOtherTurns := by decide +kernel
  use htimely, htimely', hsame
  constructor
  · decide +kernel
  · apply view_upTo_eq_of_actsOn_eq 1000 "m" htimely htimely' hsame

/-- The section was sent once, after it had been quiet for a while, and its save was confirmed. -/
example : (upTo 1000 byTurns 2500).view "m"
    = ⟨[(1900, ⟨"m", [("a", .int 3)]⟩)], [(2000, .settingsSaved "m" "A")], none, false⟩ := by
  decide +kernel

end Ledger

end Greenhouse
