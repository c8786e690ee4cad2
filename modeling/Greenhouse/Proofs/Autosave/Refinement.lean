import Greenhouse.Proofs.Autosave.Mirror

/-!
# Autosave as pads

When every save of a section is answered before the section is touched again, autosave sends
what the pads of the sections would send, at the same times.

The window of the pads is the time that autosave waits for a section to be quiet.  It is not
longer than the longest wait, however long the section is supposed to be quiet, and this is the
only respect in which autosave differs from pads.
-/

namespace Greenhouse

namespace Autosave

/-! ### Runs -/

/-- What an input to the settings comes to, and when.  Timers stand in the order in which they
were started, which is also that in which they run down. -/
def inputs (a : Autosave) (now : Nat) : SettingsInput → List (Nat × AutosaveInput)
  | .edit name field value => [(now, .edit now name field value)]
  | .close name => [(now, .flush name)]
  | .lapse name =>
    (a.timers.filter fun t => t.name = name ∧ t.due ≤ now).map fun t => (t.due, .fire t.id)
  | .wait duration =>
    (a.timers.filter fun t => t.due < now + duration).map fun t => (t.due, .fire t.id)
  | .answer name reply =>
    (a.saves.filter fun s => s.name = name).map fun s => (now, .answer s.id reply)

/-- Autosave after inputs, and the requests that it has sent. -/
def feed (a : Autosave) : List (Nat × AutosaveInput) → Autosave × List (Nat × SettingsRequest)
  | [] => (a, [])
  | (now, x) :: rest =>
    let (b, sent, _) := a.step x
    let (b, more) := b.feed rest
    (b, (sent.toList.map fun s => (now, s.request)) ++ more)

/-- Autosave after inputs to the settings, and the requests that it has sent. -/
def run (a : Autosave) (now : Nat) :
    List SettingsInput → Autosave × List (Nat × SettingsRequest)
  | [] => (a, [])
  | x :: rest =>
    let (b, sent) := a.feed (a.inputs now x)
    let (b, more) := b.run (x.elapse now) rest
    (b, sent ++ more)

/-- The requests for a section among all requests. -/
def requestsFor (name : String) (sent : List (Nat × SettingsRequest)) :
    List (Nat × SettingsRequest) :=
  sent.filter fun (_, r) => r.name = name

/-- An input comes when it may: a section is not touched while a save of it is under way, and
only a save that is under way is answered. -/
def Admits (a : Autosave) : SettingsInput → Prop
  | .edit name _ _ | .close name => ¬ a.Awaits name
  | .answer name _ => a.Awaits name
  | .lapse _ | .wait _ => True

instance (a : Autosave) : DecidablePred a.Admits
  | .edit name _ _ | .close name => inferInstanceAs (Decidable (¬ a.Awaits name))
  | .answer name _ => inferInstanceAs (Decidable (a.Awaits name))
  | .lapse _ | .wait _ => inferInstanceAs (Decidable True)

/-- Every save is answered before its section is touched again. -/
def Orderly (a : Autosave) (now : Nat) : List SettingsInput → Prop
  | [] => True
  | x :: rest => a.Admits x ∧ (a.feed (a.inputs now x)).1.Orderly (x.elapse now) rest

instance decidableOrderly (a : Autosave) (now : Nat) :
    (inputs : List SettingsInput) → Decidable (a.Orderly now inputs)
  | [] => inferInstanceAs (Decidable True)
  | x :: rest =>
    have := decidableOrderly (a.feed (a.inputs now x)).1 (x.elapse now) rest
    inferInstanceAs (Decidable (_ ∧ _))

variable {a : Autosave} {name : String} {p : Pad} {pads : String → Pad}

/-! ### Steps -/

@[simp]
theorem debounce_flush (a : Autosave) (name : String) :
  (a.flush name).1.debounce = a.debounce
  := by
  rw [Autosave.flush]
  cases a.draft? name with
  | none => rfl
  | some d => by_cases hempty : d.fields.isEmpty = true <;> simp [hempty, putDraft]

@[simp]
theorem debounce_fire (a : Autosave) (t : SaveTimer) :
  (a.fire t).1.debounce = a.debounce
  := by
  rw [fire]
  cases (a.cancel (some t.id)).draft? t.name with
  | none => simp
  | some d => by_cases hrevision : d.revision = t.revision <;> simp [hrevision, putDraft]

theorem debounce_step (a : Autosave) (x : AutosaveInput) :
  (a.step x).1.debounce = a.debounce
  := by
  cases x with
  | edit now name field value => simp [step, Autosave.edit, putDraft]
  | flush name => simp [step]
  | fire timer => cases ht : a.timers.find? fun t => t.id = timer <;> simp [step, ht]
  | answer save reply =>
      cases hs : a.saves.find? fun s => s.id = save <;> simp [step, hs, answer_fst]

@[simp]
theorem debounce_feed (a : Autosave) (inputs : List (Nat × AutosaveInput)) :
  (a.feed inputs).1.debounce = a.debounce
  := by
  induction inputs generalizing a with
  | nil => rfl
  | cons x rest ih =>
      apply (ih (a.step x.2).1).trans
      apply debounce_step

/-- The entry with a number is found by it. -/
theorem find?_of_nodup_ids {α : Type} {entries : List α} {id : α → Nat}
    (hids : (entries.map id).Nodup) {x : α} (hx : x ∈ entries) :
  (entries.find? fun y => id y = id x) = some x
  := by
  cases hfind : entries.find? fun y => id y = id x with
  | none =>
      have hnone := List.find?_eq_none.mp hfind x hx
      simp at hnone
  | some y =>
      have hid : id y = id x := by simpa using List.find?_some hfind
      rw [List.inj_on_of_nodup_map hids (List.mem_of_find?_eq_some hfind) hx hid]

theorem Mirrors.fire (h : a.Mirrors pads) {t : SaveTimer} (ht : t ∈ a.timers) :
  (a.fire t).1.Mirrors (Function.update pads t.name ((pads t.name).send t.name t.due).1)
    ∧ ((a.fire t).2.toList.map fun s => (t.due, s.request)) = ((pads t.name).send t.name t.due).2
  := by
  obtain ⟨_, hfree, fields, hd⟩ := (h.reflects t.name).of_mem_timers ht
  rw [fire_eq_flush hd]
  apply h.flush hfree

theorem requestsFor_append (name : String) (earlier later : List (Nat × SettingsRequest)) :
  requestsFor name (earlier ++ later) = requestsFor name earlier ++ requestsFor name later
  := List.filter_append ..

theorem requestsFor_send (p : Pad) (name : String) (now : Nat) (other : String) :
  requestsFor other (p.send name now).2 = if other = name then (p.send name now).2 else []
  := by
  by_cases hfields : p.fields = []
  · simp [requestsFor, Pad.send, hfields]
  · by_cases hother : other = name
    · simp [requestsFor, Pad.send, hfields, hother]
    · simp [requestsFor, Pad.send, hfields, hother, Ne.symm hother]

/-- Some timers run down one after another. -/
theorem Mirrors.expire (h : a.Mirrors pads) {timers : List SaveTimer}
    (hids : (timers.map SaveTimer.id).Nodup) (htimers : ∀ t ∈ timers, t ∈ a.timers) :
  (a.feed (timers.map fun t => (t.due, .fire t.id))).1.Mirrors
      (fun name => ((pads name).reach name fun due =>
        timers.any fun t => t.name = name ∧ t.due = due).1)
    ∧ ∀ name, requestsFor name (a.feed (timers.map fun t => (t.due, .fire t.id))).2
      = ((pads name).reach name fun due => timers.any fun t => t.name = name ∧ t.due = due).2
  := by
  induction timers generalizing a pads with
  | nil =>
      have hreach (name : String) :
          ((pads name).reach name fun due =>
            ([] : List SaveTimer).any fun t => t.name = name ∧ t.due = due) = (pads name, []) := by
        cases hp : (pads name).deadline with
        | none => apply Pad.reach_of_no_deadline hp
        | some due => apply Pad.reach_of_deadline hp
      simp only [List.map_nil, feed, hreach]
      use h
      intro name
      rfl
  | cons t rest ih =>
      obtain ⟨ht, hrest⟩ := List.forall_mem_cons.mp htimers
      obtain ⟨hid, hids⟩ := List.nodup_cons.mp hids
      obtain ⟨hb, hsent⟩ := h.fire ht
      obtain ⟨hdeadline, _, fields, hd⟩ := (h.reflects t.name).of_mem_timers ht
      have hstep : a.step (.fire t.id) = ((a.fire t).1, (a.fire t).2, []) := by
        simp only [step, find?_of_nodup_ids h.timers ht]
      have hkept : ∀ t' ∈ rest, t' ∈ (a.fire t).1.timers := by
        intro t' ht'
        have hne : t'.id ≠ t.id := by
          intro heq
          apply hid
          rw [← heq]
          apply List.mem_map_of_mem ht'
        rw [timers_fire hd]
        apply List.mem_filter.mpr
        use hrest t' ht'
        apply bne_iff_ne.mpr hne
      obtain ⟨hmirrors, hrequests⟩ := ih hb hids hkept
      have hreach (name : String) :
          ((pads name).reach name fun due =>
              (t :: rest).any fun t => t.name = name ∧ t.due = due)
            = Prod.map id (requestsFor name ((pads t.name).send t.name t.due).2 ++ ·)
              ((Function.update pads t.name ((pads t.name).send t.name t.due).1 name).reach name
                fun due => rest.any fun t => t.name = name ∧ t.due = due) := by
        rw [Function.update_apply, requestsFor_send]
        by_cases hname : name = t.name
        · subst hname
          rw [if_pos rfl, if_pos rfl, Pad.reach_of_deadline hdeadline,
            Pad.reach_of_no_deadline (p := ((pads t.name).send t.name t.due).1) rfl]
          simp
        · rw [if_neg hname, if_neg hname]
          apply Pad.reach_congr
          intro due _
          simp [Ne.symm hname]
      simp only [List.map_cons, feed, hstep, hreach, Prod.map_fst, Prod.map_snd, id_eq,
        requestsFor_append, hsent]
      use hmirrors
      intro name
      rw [hrequests]

/-- The timers of a kind run down: the deadlines of that kind are reached. -/
theorem Mirrors.expire_filter (h : a.Mirrors pads) (due : String → Nat → Bool) :
  (a.feed ((a.timers.filter fun t => due t.name t.due).map fun t => (t.due, .fire t.id))).1.Mirrors
      (fun name => ((pads name).reach name (due name)).1)
    ∧ ∀ name, requestsFor name (a.feed ((a.timers.filter fun t => due t.name t.due).map
        fun t => (t.due, .fire t.id))).2
      = ((pads name).reach name (due name)).2
  := by
  have hreach (name : String) :
      ((pads name).reach name fun moment =>
          (a.timers.filter fun t => due t.name t.due).any fun t => t.name = name ∧ t.due = moment)
        = (pads name).reach name (due name) := by
    apply Pad.reach_congr
    intro moment hmoment
    obtain ⟨t, ht, hname, hdue⟩ := ((h.reflects name).exists_timer_iff moment).mpr hmoment
    rw [Bool.eq_iff_iff, List.any_eq_true]
    constructor
    · rintro ⟨t', ht', heq⟩
      obtain ⟨rfl, rfl⟩ := of_decide_eq_true heq
      apply (List.mem_filter.mp ht').2
    · intro hmet
      use t
      rw [List.mem_filter, hname, hdue]
      use ⟨ht, hmet⟩
      apply decide_eq_true ⟨rfl, rfl⟩
  have hmem : ∀ t ∈ a.timers.filter fun t => due t.name t.due, t ∈ a.timers :=
    fun t ht => (List.mem_filter.mp ht).1
  have hexpire := h.expire (h.timers.sublist (List.filter_sublist.map _)) hmem
  simpa only [hreach] using hexpire

/-- When a save of a section is under way, it is the only one. -/
theorem Reflects.exists_save (h : a.Reflects name p) (hawaits : a.Awaits name) :
  ∃ s ∈ a.saves, s.name = name ∧ a.savesOf name = [s]
  := by
  obtain ⟨s, hs, hname⟩ := hawaits
  use s, hs, hname
  have hmem : s ∈ a.savesOf name := List.mem_filter.mpr ⟨hs, decide_eq_true hname⟩
  cases h with
  | blank _ _ saves =>
      rw [saves] at hmem
      nomatch hmem
  | pending _ _ _ _ saves =>
      rw [saves] at hmem
      nomatch hmem
  | resting _ _ _ _ saves =>
      rw [saves] at hmem ⊢
      rw [Option.mem_toList.mp hmem]
      rfl

/-- An input that concerns one section changes one pad. -/
theorem step_eq_update (name : String) {window now : Nat} {x : SettingsInput}
    (hothers : ∀ other, ¬ name = other → ((pads other).step window other now x).1 = pads other) :
  (fun other => ((pads other).step window other now x).1)
    = Function.update pads name ((pads name).step window name now x).1
  := by
  funext other
  by_cases hother : name = other
  · subst hother
    rw [Function.update_self]
  · rw [Function.update_of_ne (Ne.symm hother)]
    apply hothers other hother

/-- What an input comes to is what it does to the pads. -/
theorem Mirrors.step (h : a.Mirrors pads) (now : Nat) {x : SettingsInput} (hx : a.Admits x) :
  (a.feed (a.inputs now x)).1.Mirrors
      (fun name => ((pads name).step (waitLength a.debounce) name now x).1)
    ∧ ∀ name, requestsFor name (a.feed (a.inputs now x)).2
      = ((pads name).step (waitLength a.debounce) name now x).2
  := by
  cases x with
  | edit name field value =>
      rw [step_eq_update name fun other hother => by simp [Pad.step, hother], Pad.step, if_pos rfl]
      use h.edit hx now field value
      intro other
      rfl
  | close name =>
      obtain ⟨hmirrors, hsent⟩ := h.flush hx now
      have hfeed : a.feed (a.inputs now (.close name))
          = ((a.flush name).1, ((pads name).send name now).2) := by
        simp [inputs, feed, Autosave.step, hsent]
      rw [hfeed, step_eq_update name fun other hother => by simp [Pad.step, hother], Pad.step,
        if_pos rfl]
      use hmirrors
      intro other
      rw [requestsFor_send]
      by_cases hother : name = other
      · subst hother
        simp [Pad.step]
      · simp [Pad.step, hother, Ne.symm hother]
  | lapse name =>
      have hreach (other : String) :
          (pads other).step (waitLength a.debounce) other now (.lapse name)
            = (pads other).reach other fun due => other = name ∧ due ≤ now := by
        rw [Pad.step]
        by_cases hother : name = other
        · simp [hother]
        · simp only [if_neg hother, Ne.symm hother, false_and, decide_false]
          cases hp : (pads other).deadline with
          | none => rw [Pad.reach_of_no_deadline hp]
          | some due => rw [Pad.reach_of_deadline hp]; rfl
      simp only [hreach]
      apply h.expire_filter fun other due => other = name ∧ due ≤ now
  | wait duration =>
      apply h.expire_filter fun _ due => due < now + duration
  | answer name reply =>
      obtain ⟨s, hs, rfl, hsaves⟩ := (h.reflects name).exists_save hx
      have hfeed : a.feed (a.inputs now (.answer s.name reply))
          = ((a.answer s (s.outcome reply)).1, []) := by
        rw [savesOf] at hsaves
        simp only [inputs, hsaves, List.map_cons, List.map_nil, feed, Autosave.step,
          find?_of_nodup_ids h.saves hs]
        rfl
      rw [hfeed, step_eq_update s.name fun other hother => by simp [Pad.step, hother], Pad.step,
        if_pos rfl]
      use h.answer hs reply
      intro other
      rfl

/-! ### Runs as pads -/

theorem Mirrors.run (h : a.Mirrors pads) (now : Nat) {inputs : List SettingsInput}
    (hinputs : a.Orderly now inputs) (name : String) :
  requestsFor name (a.run now inputs).2
    = ((pads name).run (waitLength a.debounce) name now inputs).2
  := by
  induction inputs generalizing a pads now with
  | nil => rfl
  | cons x rest ih =>
      obtain ⟨hx, hrest⟩ := hinputs
      obtain ⟨hmirrors, hsent⟩ := h.step now hx
      have hmore := ih hmirrors (x.elapse now) hrest
      rw [debounce_feed] at hmore
      simp only [Autosave.run, Pad.run, requestsFor_append, hsent, hmore]

theorem mirrors_ofDebounce (debounce : Nat) :
  (ofDebounce debounce).Mirrors fun _ => .blank
  := by
  constructor
  · constructor <;> simp [ofDebounce]
  · intro name
    apply Reflects.blank <;> rfl

theorem Orderly.of_append {now : Nat} {earlier later : List SettingsInput}
    (h : a.Orderly now (earlier ++ later)) :
  a.Orderly now earlier
  := by
  induction earlier generalizing a now with
  | nil => trivial
  | cons x rest ih => use h.1, ih h.2

/-- The requests for a section that autosave sends when it begins with nothing. -/
def requestsAfter (debounce now : Nat) (name : String) (inputs : List SettingsInput) :
    List (Nat × SettingsRequest) :=
  requestsFor name ((ofDebounce debounce).run now inputs).2

/-- Autosave sends of every section what its pad sends.  When the section has been closed, or a
save of it has been answered, nothing more of it is sent until it is edited or closed again; and
after a row of edits that follow one another within the window it is sent once, when the window
has passed since the last of them. -/
theorem requestsAfter_eq_pad (debounce now : Nat) {inputs : List SettingsInput}
    (h : (ofDebounce debounce).Orderly now inputs) (name : String) :
  requestsAfter debounce now name inputs
      = (Pad.blank.run (waitLength debounce) name now inputs).2
    ∧ (∀ earlier x later, inputs = earlier ++ x :: later → x.Closes name ∨ x.Answers name →
      (∀ y ∈ later, ¬ y.Edits name ∧ ¬ y.Closes name) →
      requestsAfter debounce now name inputs = requestsAfter debounce now name (earlier ++ [x]))
    ∧ ∀ earlier field value later, inputs = earlier ++ .edit name field value :: later →
      (∀ y ∈ later, ¬ y.Closes name ∧ ¬ y.Answers name) →
      let start := SettingsInput.ending now earlier
      let times := SettingsInput.editTimes name start later
      let due := times.getLastD start + waitLength debounce
      (start :: times).IsChain (fun s t => t < s + waitLength debounce) →
      due < SettingsInput.ending now inputs →
      requestsAfter debounce now name inputs
        = requestsAfter debounce now name earlier
          ++ [(due, ⟨name, (Pad.blank.run (waitLength debounce) name now inputs).1.fields⟩)]
  := by
  have hpad {inputs : List SettingsInput} (h : (ofDebounce debounce).Orderly now inputs) :
      requestsAfter debounce now name inputs
        = (Pad.blank.run (waitLength debounce) name now inputs).2 :=
    (mirrors_ofDebounce debounce).run now h name
  use hpad h
  constructor
  · rintro earlier x later rfl hx hquiet
    have hbegins : (ofDebounce debounce).Orderly now (earlier ++ [x]) := by
      have hall : (ofDebounce debounce).Orderly now ((earlier ++ [x]) ++ later) := by simpa using h
      apply hall.of_append
    have hsplit : earlier ++ x :: later = (earlier ++ [x]) ++ later := by simp
    rw [hpad h, hpad hbegins, hsplit, Pad.run_append]
    simp only [Pad.run_append, Pad.run, List.append_nil]
    rw [Pad.run_of_no_deadline (Pad.deadline_of_settled hx) hquiet, List.append_nil]
  · rintro earlier field value later rfl hkept start times due hrow hending
    have hsame : SettingsInput.ending now (earlier ++ .edit name field value :: later)
        = SettingsInput.ending start later := by
      simp [SettingsInput.ending, SettingsInput.elapse, start]
    rw [hsame] at hending
    have hfields := Pad.write_ne_nil field value
      (Pad.blank.run (waitLength debounce) name now earlier).1.fields
    have hrest := Pad.run_of_row (p := ⟨_, some (start + waitLength debounce)⟩) hfields rfl
      (Nat.le_add_right start (waitLength debounce)) hkept hrow hending
    rw [hpad h, hpad h.of_append, Pad.run_append]
    simp only [Pad.run, Pad.step, if_true, SettingsInput.elapse, List.nil_append]
    apply congrArg (_ ++ ·) hrest

/-- A section is edited twice in a row while another one is edited, and the save is refused.
The section is edited again then, and closed. -/
def refusedSave : List SettingsInput :=
  [.edit "n" "a" (.int 1), .wait 300, .edit "n" "b" (.int 2), .edit "m" "a" (.int 3), .wait 2000,
    .answer "n" (.ok ⟨"error", none, some "busy"⟩), .wait 5000, .edit "n" "a" (.int 4),
    .close "n", .wait 5000]

/-- The row of edits is sent once, the refused save is not sent again by itself, and the close
sends all fields. -/
theorem requestsAfter_refusedSave :
  requestsAfter 1000 0 "n" (refusedSave.take 5) = [(1300, ⟨"n", [("a", .int 1), ("b", .int 2)]⟩)]
    ∧ requestsAfter 1000 0 "n" (refusedSave.take 7) = requestsAfter 1000 0 "n" (refusedSave.take 6)
    ∧ requestsAfter 1000 0 "n" refusedSave
      = [(1300, ⟨"n", [("a", .int 1), ("b", .int 2)]⟩),
        (7300, ⟨"n", [("a", .int 4), ("b", .int 2)]⟩)]
  := by
  have horderly : (ofDebounce 1000).Orderly 0 refusedSave := by decide +kernel
  have hrow : (ofDebounce 1000).Orderly 0 (refusedSave.take 5) := by decide +kernel
  have hrefused : (ofDebounce 1000).Orderly 0 (refusedSave.take 7) := by decide +kernel
  constructor
  · apply (requestsAfter_eq_pad 1000 0 hrow "n").2.2 [] "a" (.int 1) _ rfl
    · simp [SettingsInput.Closes, SettingsInput.Answers]
    · decide
    · decide
  · constructor
    · apply (requestsAfter_eq_pad 1000 0 hrefused "n").2.1 (refusedSave.take 5) _ _ rfl
      · right
        rfl
      · simp [SettingsInput.Edits, SettingsInput.Closes]
    · rw [(requestsAfter_eq_pad 1000 0 horderly "n").1]
      decide +kernel

/-- When a section is supposed to be quiet for sixty years, it is sent after thirty. -/
theorem requestsAfter_ne_pad_of_debounce :
  (ofDebounce 1892160000000).Orderly 0 [.edit "n" "a" (.int 1), .wait 946080000001]
    ∧ requestsAfter 1892160000000 0 "n" [.edit "n" "a" (.int 1), .wait 946080000001]
      = [(946080000000, ⟨"n", [("a", .int 1)]⟩)]
    ∧ (Pad.blank.run 1892160000000 "n" 0 [.edit "n" "a" (.int 1), .wait 946080000001]).2 = []
  := by
  decide +kernel

end Autosave

end Greenhouse
