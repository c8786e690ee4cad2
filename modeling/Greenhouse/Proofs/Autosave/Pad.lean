import Mathlib.Data.List.Basic
import Mathlib.Data.List.Nodup
import Greenhouse.Control.Request
import Greenhouse.Time.Wait

/-!
# Pads

A `Pad` is what the settings of one section come to when timers, revisions and saves under way
are left out of account: the fields that have been edited, in the order in which they were first
edited, and at most one deadline.  An edit sets the deadline, and a deadline that is reached
sends all fields.

The last section is about what a pad sends: nothing after it was closed or answered until it is
edited or closed again, and once after a row of edits that follow one another quickly.
-/

namespace Greenhouse

/-- Something that happens to the settings. -/
inductive SettingsInput where
  | edit (name field : String) (value : Json)
  | close (name : String)
  /-- A section is sent if its deadline has come. -/
  | lapse (name : String)
  /-- Time passes; deadlines on the way are met. -/
  | wait (duration : Nat)
  | answer (name : String) (reply : Except RequestError SettingsResponse)

namespace SettingsInput

/-- The time after an input. -/
def elapse (now : Nat) : SettingsInput → Nat
  | .wait duration => now + duration
  | .edit _ _ _ | .close _ | .lapse _ | .answer _ _ => now

/-- The time after inputs. -/
def ending (now : Nat) (inputs : List SettingsInput) : Nat := inputs.foldl elapse now

/-- An input by which a section is edited. -/
def Edits (name : String) : SettingsInput → Prop
  | .edit other _ _ => other = name
  | .close _ | .lapse _ | .wait _ | .answer _ _ => False

/-- An input by which a section is closed. -/
def Closes (name : String) : SettingsInput → Prop
  | .close other => other = name
  | .edit _ _ _ | .lapse _ | .wait _ | .answer _ _ => False

/-- An input by which a save of a section is answered. -/
def Answers (name : String) : SettingsInput → Prop
  | .answer other _ => other = name
  | .edit _ _ _ | .close _ | .lapse _ | .wait _ => False

instance (name : String) : DecidablePred (Edits name)
  | .edit other _ _ => inferInstanceAs (Decidable (other = name))
  | .close _ | .lapse _ | .wait _ | .answer _ _ => inferInstanceAs (Decidable False)

/-- When a section is edited. -/
def editTimes (name : String) (now : Nat) : List SettingsInput → List Nat
  | [] => []
  | x :: rest =>
    (if x.Edits name then [now] else []) ++ editTimes name (x.elapse now) rest

theorem le_elapse (now : Nat) (x : SettingsInput) :
  now ≤ x.elapse now
  := by
  cases x with
  | wait duration => apply Nat.le_add_right
  | edit | close | lapse | answer => apply Nat.le_refl

theorem le_of_mem_editTimes {name : String} {now t : Nat} {inputs : List SettingsInput}
    (h : t ∈ editTimes name now inputs) :
  now ≤ t
  := by
  induction inputs generalizing now with
  | nil => nomatch h
  | cons x rest ih =>
      obtain h | h := List.mem_append.mp h
      · split at h
        · apply Nat.le_of_eq (List.mem_singleton.mp h).symm
        · nomatch h
      · apply Nat.le_trans (x.le_elapse now) (ih h)

theorem not_edits_of_editTimes_eq_nil {name : String} {now : Nat} {inputs : List SettingsInput}
    (h : editTimes name now inputs = []) :
  ∀ x ∈ inputs, ¬ x.Edits name
  := by
  induction inputs generalizing now with
  | nil => nofun
  | cons x rest ih =>
      obtain ⟨hfirst, hrest⟩ := List.append_eq_nil_iff.mp h
      intro y hy
      obtain rfl | hy := List.mem_cons.mp hy
      · intro hedits
        rw [if_pos hedits] at hfirst
        nomatch hfirst
      · apply ih hrest y hy

end SettingsInput

/-- A reply that confirms a save. -/
def Verifies : Except RequestError SettingsResponse → Prop
  | .ok response => response.verifiedBcc.isSome
  | .error _ => False

instance : DecidablePred Verifies
  | .ok response => inferInstanceAs (Decidable (response.verifiedBcc.isSome = true))
  | .error _ => inferInstanceAs (Decidable False)

/-- The unsaved fields of a section, and when they will be sent. -/
structure Pad where
  fields : SettingsFields
  deadline : Option Nat
deriving DecidableEq

namespace Pad

/-- Nothing has been edited. -/
def blank : Pad := ⟨[], none⟩

/-- A field is given a value.  A field that has one keeps its place. -/
def write (field : String) (value : Json) (fields : SettingsFields) : SettingsFields :=
  if field ∈ fields.map Prod.fst then
    fields.map fun (k, v) => (k, if k = field then value else v)
  else fields ++ [(field, value)]

/-- The fields are sent, if there are any: the requests and their time. -/
def send (p : Pad) (name : String) (now : Nat) : Pad × List (Nat × SettingsRequest) :=
  ({ p with deadline := none }, if p.fields = [] then [] else [(now, ⟨name, p.fields⟩)])

/-- The fields are sent if the deadline is one of those that are met. -/
def reach (p : Pad) (name : String) (met : Nat → Bool) : Pad × List (Nat × SettingsRequest) :=
  match p.deadline.filter met with
  | some due => p.send name due
  | none => (p, [])

/-- What an input does to the pad of a section, when edits are held back for a window. -/
def step (window : Nat) (name : String) (now : Nat) (p : Pad) :
    SettingsInput → Pad × List (Nat × SettingsRequest)
  | .edit other field value =>
    (if other = name then ⟨write field value p.fields, some (now + window)⟩ else p, [])
  | .close other => if other = name then p.send name now else (p, [])
  | .lapse other => if other = name then p.reach name fun due => due ≤ now else (p, [])
  | .wait duration => p.reach name fun due => due < now + duration
  | .answer other reply =>
    (if other = name then (if Verifies reply then blank else { p with deadline := none }) else p,
      [])

/-- The pad of a section after inputs, and what it has sent. -/
def run (window : Nat) (name : String) (now : Nat) (p : Pad) :
    List SettingsInput → Pad × List (Nat × SettingsRequest)
  | [] => (p, [])
  | x :: rest =>
    let (p, sent) := p.step window name now x
    let (p, more) := p.run window name (x.elapse now) rest
    (p, sent ++ more)

theorem run_append (window : Nat) (name : String) (now : Nat) (p : Pad)
    (earlier later : List SettingsInput) :
  p.run window name now (earlier ++ later)
    = let (q, sent) := p.run window name now earlier
      let (q, more) := q.run window name (SettingsInput.ending now earlier) later
      (q, sent ++ more)
  := by
  induction earlier generalizing now p with
  | nil => rfl
  | cons x rest ih =>
      simp only [List.cons_append, run, ih, List.append_assoc]
      rfl

variable {window : Nat} {name : String} {now : Nat} {p : Pad}

theorem reach_of_deadline {due : Nat} (hp : p.deadline = some due) (met : Nat → Bool) :
  p.reach name met = if met due then p.send name due else (p, [])
  := by
  rw [reach, hp]
  cases hmet : met due <;> simp [Option.filter, hmet]

theorem reach_of_no_deadline (hp : p.deadline = none) (met : Nat → Bool) :
  p.reach name met = (p, [])
  := by
  rw [reach, hp]
  rfl

/-- Only what is met of the deadline counts. -/
theorem reach_congr {met met' : Nat → Bool} (h : ∀ due, p.deadline = some due → met due = met' due) :
  p.reach name met = p.reach name met'
  := by
  cases hp : p.deadline with
  | none => rw [reach_of_no_deadline hp, reach_of_no_deadline hp]
  | some due => rw [reach_of_deadline hp, reach_of_deadline hp, h due hp]

/-! ### Silence -/

theorem step_of_no_deadline (hp : p.deadline = none) {x : SettingsInput}
    (hedits : ¬ x.Edits name) (hcloses : ¬ x.Closes name) :
  (p.step window name now x).1.deadline = none ∧ (p.step window name now x).2 = []
  := by
  cases x with
  | edit other field value =>
      have hother : ¬ other = name := hedits
      simp [step, hother, hp]
  | close other =>
      have hother : ¬ other = name := hcloses
      simp [step, hother, hp]
  | lapse other => by_cases hother : other = name <;> simp [step, reach_of_no_deadline, hother, hp]
  | wait duration => simp [step, reach_of_no_deadline, hp]
  | answer other reply =>
      by_cases hother : other = name <;> by_cases hreply : Verifies reply <;>
        simp [step, hother, hreply, hp, blank]

/-- A pad without a deadline sends nothing before it is edited or closed. -/
theorem run_of_no_deadline (hp : p.deadline = none) {inputs : List SettingsInput}
    (hquiet : ∀ x ∈ inputs, ¬ x.Edits name ∧ ¬ x.Closes name) :
  (p.run window name now inputs).2 = []
  := by
  induction inputs generalizing now p with
  | nil => rfl
  | cons x rest ih =>
      obtain ⟨hedits, hcloses⟩ := hquiet x List.mem_cons_self
      obtain ⟨hdeadline, hsent⟩ : (p.step window name now x).1.deadline = none
          ∧ (p.step window name now x).2 = [] := step_of_no_deadline hp hedits hcloses
      have hrest : ((p.step window name now x).1.run window name (x.elapse now) rest).2 = [] :=
        ih hdeadline fun y hy => hquiet y (List.mem_cons_of_mem _ hy)
      simp only [run, hsent, hrest, List.append_nil]

/-- A pad that has been closed or answered has no deadline. -/
theorem deadline_of_settled {x : SettingsInput} (hx : x.Closes name ∨ x.Answers name) :
  (p.step window name now x).1.deadline = none
  := by
  cases x with
  | close other =>
      obtain rfl : other = name := hx.resolve_right id
      simp [step, send]
  | answer other reply =>
      obtain rfl : other = name := hx.resolve_left id
      by_cases hreply : Verifies reply <;> simp [step, hreply, blank]
  | edit | lapse | wait => exact absurd hx (by simp [SettingsInput.Closes, SettingsInput.Answers])

/-! ### Rows of edits -/

theorem write_ne_nil (field : String) (value : Json) (fields : SettingsFields) :
  write field value fields ≠ []
  := by
  rw [write]
  split
  · next hmem =>
      intro hnil
      rw [List.map_eq_nil_iff.mp hnil] at hmem
      nomatch hmem
  · apply List.append_ne_nil_of_right_ne_nil
    nofun

theorem step_of_not_edits {x : SettingsInput} (hedits : ¬ x.Edits name)
    (hcloses : ¬ x.Closes name) (hanswers : ¬ x.Answers name) :
  (p.step window name now x).1.fields = p.fields
  := by
  cases x with
  | edit other field value =>
      have hother : ¬ other = name := hedits
      simp [step, hother]
  | close other =>
      have hother : ¬ other = name := hcloses
      simp [step, hother]
  | lapse other =>
      by_cases hother : other = name
      · cases hmet : p.deadline.filter fun due => due ≤ now <;>
          simp [step, reach, send, hother, hmet]
      · simp [step, hother]
  | wait duration =>
      cases hmet : p.deadline.filter fun due => due < now + duration <;>
        simp [step, reach, send, hmet]
  | answer other reply =>
      have hother : ¬ other = name := hanswers
      simp [step, hother]

theorem run_of_not_edits {inputs : List SettingsInput}
    (hquiet : ∀ x ∈ inputs, ¬ x.Edits name ∧ ¬ x.Closes name ∧ ¬ x.Answers name) :
  (p.run window name now inputs).1.fields = p.fields
  := by
  induction inputs generalizing now p with
  | nil => rfl
  | cons x rest ih =>
      obtain ⟨hedits, hcloses, hanswers⟩ := hquiet x List.mem_cons_self
      apply (ih fun y hy => hquiet y (List.mem_cons_of_mem _ hy)).trans
      apply step_of_not_edits hedits hcloses hanswers

/-- What comes to a pad that has a deadline, when it is not closed and not answered: it is edited
and gets another deadline, or it stays as it is and the deadline is still ahead, or it is sent. -/
theorem step_cases (window : Nat) {due : Nat} (hp : p.deadline = some due) (hnow : now ≤ due)
    {x : SettingsInput} (hcloses : ¬ x.Closes name) (hanswers : ¬ x.Answers name) :
  (x.Edits name ∧ x.elapse now = now ∧ ∃ fields, fields ≠ []
      ∧ p.step window name now x = (⟨fields, some (now + window)⟩, []))
    ∨ (¬ x.Edits name ∧ x.elapse now ≤ due ∧ p.step window name now x = (p, []))
    ∨ (¬ x.Edits name ∧ due ≤ x.elapse now ∧ p.step window name now x = p.send name due)
  := by
  cases x with
  | edit other field value =>
      by_cases hother : other = name
      · left
        use hother, rfl, write field value p.fields, write_ne_nil field value p.fields
        simp [step, hother]
      · right; left
        use hother, hnow
        simp [step, hother]
  | close other =>
      have hother : ¬ other = name := hcloses
      right; left
      use id, hnow
      simp [step, hother]
  | lapse other =>
      right
      by_cases hmet : other = name ∧ due ≤ now
      · right
        use id, hmet.2
        simp [step, reach_of_deadline hp, hmet]
      · left
        use id, hnow
        by_cases hother : other = name
        · have hahead : ¬ due ≤ now := fun h => hmet ⟨hother, h⟩
          simp [step, reach_of_deadline hp, hother, hahead]
        · simp [step, hother]
  | wait duration =>
      right
      by_cases hmet : due < now + duration
      · right
        use id, Nat.le_of_lt hmet
        simp [step, reach_of_deadline hp, hmet]
      · left
        use id, Nat.not_lt.mp hmet
        simp [step, reach_of_deadline hp, hmet]
  | answer other reply =>
      have hother : ¬ other = name := hanswers
      right; left
      use id, hnow
      simp [step, hother]

/-- When the deadline of the last edit of a row has come, the row has ended. -/
theorem editTimes_eq_nil_of_row {last : Nat} {inputs : List SettingsInput}
    (hrow : (last :: SettingsInput.editTimes name now inputs).IsChain fun a b => b < a + window)
    (hpast : last + window ≤ now) :
  SettingsInput.editTimes name now inputs = []
  := by
  cases htimes : SettingsInput.editTimes name now inputs with
  | nil => rfl
  | cons t rest =>
      have hnext : t < last + window := by
        rw [htimes] at hrow
        apply (List.isChain_cons_cons.mp hrow).1
      have hlater : now ≤ t := by
        have hmem : t ∈ SettingsInput.editTimes name now inputs := by
          rw [htimes]
          apply List.mem_cons_self
        apply SettingsInput.le_of_mem_editTimes hmem
      omega

/-- After a row of edits that follow one another within the window, the pad is sent once, when
the window has passed since the last of them. -/
theorem run_of_row {last : Nat} (hfields : p.fields ≠ []) (hp : p.deadline = some (last + window))
    (hnow : now ≤ last + window) {inputs : List SettingsInput}
    (hkept : ∀ x ∈ inputs, ¬ x.Closes name ∧ ¬ x.Answers name)
    (hrow : (last :: SettingsInput.editTimes name now inputs).IsChain fun a b => b < a + window)
    (hending : (SettingsInput.editTimes name now inputs).getLastD last + window
      < SettingsInput.ending now inputs) :
  (p.run window name now inputs).2
    = [((SettingsInput.editTimes name now inputs).getLastD last + window,
        ⟨name, (p.run window name now inputs).1.fields⟩)]
  := by
  induction inputs generalizing now p last with
  | nil =>
      have : last + window < now := hending
      omega
  | cons x rest ih =>
      obtain ⟨hcloses, hanswers⟩ := hkept x List.mem_cons_self
      have hkept : ∀ y ∈ rest, ¬ y.Closes name ∧ ¬ y.Answers name :=
        fun y hy => hkept y (List.mem_cons_of_mem _ hy)
      obtain ⟨hedits, helapse, fields, hne, hstep⟩ | ⟨hedits, hahead, hstep⟩
        | ⟨hedits, hpast, hstep⟩ := step_cases window hp hnow hcloses hanswers
      · have htimes : SettingsInput.editTimes name now (x :: rest)
            = now :: SettingsInput.editTimes name now rest := by
          simp [SettingsInput.editTimes, hedits, helapse]
        have hend : SettingsInput.ending now (x :: rest) = SettingsInput.ending now rest := by
          simp [SettingsInput.ending, helapse]
        rw [htimes, hend, List.getLastD_cons] at hending
        rw [htimes] at hrow
        have hrest := ih (p := ⟨fields, some (now + window)⟩) hne rfl
          (Nat.le_add_right now window) hkept (List.isChain_cons_cons.mp hrow).2 hending
        simp only [htimes, List.getLastD_cons, run, hstep, helapse, List.nil_append, hrest]
      · have htimes : SettingsInput.editTimes name now (x :: rest)
            = SettingsInput.editTimes name (x.elapse now) rest := by
          simp [SettingsInput.editTimes, hedits]
        rw [htimes] at hrow hending
        have hrest := ih hfields hp hahead hkept hrow hending
        simp only [htimes, run, hstep, List.nil_append, hrest]
      · have htimes : SettingsInput.editTimes name now (x :: rest)
            = SettingsInput.editTimes name (x.elapse now) rest := by
          simp [SettingsInput.editTimes, hedits]
        rw [htimes] at hrow
        have hnone := editTimes_eq_nil_of_row hrow hpast
        have hquiet : ∀ y ∈ rest, ¬ y.Edits name :=
          SettingsInput.not_edits_of_editTimes_eq_nil hnone
        have hsilent : ((p.send name (last + window)).1.run window name (x.elapse now) rest).2 = [] :=
          run_of_no_deadline rfl fun y hy => ⟨hquiet y hy, (hkept y hy).1⟩
        have hsame : ((p.send name (last + window)).1.run window name (x.elapse now) rest).1.fields
            = p.fields :=
          run_of_not_edits fun y hy => ⟨hquiet y hy, hkept y hy⟩
        simp only [htimes, hnone, List.getLastD_nil, run, hstep, hsilent, hsame, List.append_nil]
        simp [send, hfields]

end Pad

end Greenhouse
