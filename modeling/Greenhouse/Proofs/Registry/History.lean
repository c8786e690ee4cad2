import Greenhouse.Proofs.Registry.Step

/-!
# The registry and its history

A registry that began empty is determined by what has been done to it.  For every actuator,
`RegistryHistory` tells from the inputs alone whether the operator holds it, what was last
read and last forced, what is shown, and when that last changed; the main statement is that
the registry says the same, and that every further input is answered accordingly.  Histories
are written with the last input first.
-/

namespace Greenhouse

variable {τ : Type}

namespace RegistryInput

/-- Whether an input makes an actuator known. -/
def introduces (name : String) : RegistryInput → Bool
  | .telemetry other _ | .force other _ | .toggle other => other = name
  | .clear _ | .clearAll => false

/-- The reading that an input brings for an actuator. -/
def reading? (name : String) : RegistryInput → Option ActuatorValue
  | .telemetry other value => if other = name then some value else none
  | _ => none

/-- Whether an input begins a hold of an actuator, or ends it, or does neither. -/
def hold? (name : String) : RegistryInput → Option Bool
  | .telemetry _ _ => none
  | .force other _ | .toggle other => if other = name then some true else none
  | .clear other => if other = name then some false else none
  | .clearAll => some false

/-- Whether an input changes the value or the hold of an actuator that was held or not. -/
def changes (name : String) (held : Bool) : RegistryInput → Bool
  | .telemetry other _ => other = name && !held
  | .force other _ | .toggle other => other = name
  | .clear other => other = name && held
  | .clearAll => held

end RegistryInput

/-- What has been done to a registry and when, the last input first. -/
abbrev RegistryHistory (τ : Type) := List (τ × RegistryInput)

namespace RegistryHistory

/-- The registry after a history, from an empty one. -/
def registry : RegistryHistory τ → Registry τ
  | [] => []
  | (now, x) :: earlier => ((registry earlier).step now x).1

/-! ### What a history says about an actuator -/

/-- Whether some input has made the actuator known. -/
def knows (h : RegistryHistory τ) (name : String) : Bool := h.any fun (_, x) => x.introduces name

/-- Whether the last input to begin or end a hold of the actuator began one. -/
def holds (h : RegistryHistory τ) (name : String) : Bool :=
  (h.findSome? fun (_, x) => x.hold? name).getD false

/-- The last reading for the actuator, and its time. -/
def lastReading (h : RegistryHistory τ) (name : String) : Option (τ × ActuatorValue) :=
  h.findSome? fun (now, x) => (x.reading? name).map fun value => (now, value)

/-- The value shown for the actuator, when the value last forced on it is given. -/
def showing (h : RegistryHistory τ) (name : String) (forced : Option ActuatorValue) :
    Option ActuatorValue :=
  if h.holds name then forced else ((h.lastReading name).map Prod.snd).or forced

/-- The opposite of a value; no value counts as off. -/
def opposite (value : Option ActuatorValue) : ActuatorValue :=
  .switch (!value.any ActuatorValue.isOn)

/-- The value last forced on the actuator.  A toggle forces the opposite of the value shown
until then. -/
def lastForced (name : String) : RegistryHistory τ → Option ActuatorValue
  | [] => none
  | (_, .force other value) :: earlier =>
    if other = name then some value else lastForced name earlier
  | (_, .toggle other) :: earlier =>
    if other = name then some (opposite (showing earlier name (lastForced name earlier)))
    else lastForced name earlier
  | (_, .telemetry _ _) :: earlier | (_, .clear _) :: earlier | (_, .clearAll) :: earlier =>
    lastForced name earlier

/-- The value shown for the actuator: the one last forced on it while it is held, and
otherwise the last reading, if there is one. -/
def shown (h : RegistryHistory τ) (name : String) : Option ActuatorValue :=
  h.showing name (lastForced name h)

/-- When the value or the hold of the actuator was last changed. -/
def lastChange (name : String) : RegistryHistory τ → Option τ
  | [] => none
  | (now, x) :: earlier =>
    if x.changes name (holds earlier name) then some now else lastChange name earlier

/-- An actuator, known or not, is as a history says. -/
structure Tells (h : RegistryHistory τ) (name : String) (cell : Option (Actuator τ)) : Prop where
  known : cell.isSome = h.knows name
  held : cell.any Actuator.held = h.holds name
  telemetry : cell.bind Actuator.telemetry = (h.lastReading name).map Prod.snd
  value : cell.map Actuator.value = h.shown name
  seen : cell.bind Actuator.seen = (h.lastReading name).map Prod.fst
  updated : cell.map Actuator.updated = lastChange name h

/-- An input is answered as a history demands. -/
def Demands (h : RegistryHistory τ) : RegistryInput → RegistryAnswer → Prop
  | .telemetry name _, answer =>
    answer = .telemetry (if h.holds name then .shadowed else .applied)
  | .force name _, answer => answer = .forced (if h.holds name then .updated else .engaged)
  | .toggle name, answer =>
    answer = .toggled (opposite (h.shown name)) (if h.holds name then .updated else .engaged)
  | .clear name, answer => answer = .cleared (h.holds name)
  | .clearAll, answer =>
    ∃ names, answer = .clearedAll names ∧ names.Pairwise (· < ·) ∧
      ∀ name, name ∈ names ↔ h.holds name

/-! ### One more input -/

section
variable (h : RegistryHistory τ) (name : String) (now : τ) (x : RegistryInput)

theorem knows_cons :
  knows ((now, x) :: h) name = (x.introduces name || h.knows name)
  := rfl

theorem holds_cons :
  holds ((now, x) :: h) name = (x.hold? name).getD (h.holds name)
  := by
  simp only [holds, List.findSome?_cons]
  cases x.hold? name <;> rfl

theorem lastReading_cons :
  lastReading ((now, x) :: h) name
    = ((x.reading? name).map fun value => (now, value)).or (h.lastReading name)
  := by
  simp only [lastReading, List.findSome?_cons]
  cases x.reading? name <;> rfl

theorem lastChange_cons :
  lastChange name ((now, x) :: h)
    = if x.changes name (h.holds name) then some now else lastChange name h
  := rfl

end

/-- A toggle forces the opposite of what is shown. -/
theorem toggledValue_eq (r : Registry τ) (name : String) :
  r.toggledValue name = opposite ((Table.find? name r).map Actuator.value)
  := by
  unfold Registry.toggledValue opposite
  cases Table.find? name r <;> rfl

/-- What is shown after one more input, when that forces nothing by itself. -/
theorem shown_cons {h : RegistryHistory τ} {name : String} (now : τ) {x : RegistryInput}
    (hforced : lastForced name ((now, x) :: h) = lastForced name h) :
  shown ((now, x) :: h) name
    = if (x.hold? name).getD (h.holds name) then lastForced name h
      else ((x.reading? name).or ((h.lastReading name).map Prod.snd)).or (lastForced name h)
  := by
  rw [shown, showing, holds_cons, lastReading_cons, hforced]
  cases x.reading? name <;> rfl

variable {h : RegistryHistory τ} {name : String} {cell : Option (Actuator τ)}

/-- An input that does not concern an actuator leaves what a history says about it. -/
theorem Tells.cons_other (ht : h.Tells name cell) (now : τ) {x : RegistryInput}
    (hx : ¬ x.Concerns name) :
  Tells ((now, x) :: h) name cell
  := by
  have hintroduces : x.introduces name = false := by
    cases x <;> simp_all [RegistryInput.Concerns, RegistryInput.introduces]
  have hreading : x.reading? name = none := by
    cases x <;> simp_all [RegistryInput.Concerns, RegistryInput.reading?]
  have hhold : x.hold? name = none := by
    cases x <;> simp_all [RegistryInput.Concerns, RegistryInput.hold?]
  have hchanges : x.changes name (h.holds name) = false := by
    cases x <;> simp_all [RegistryInput.Concerns, RegistryInput.changes]
  have hforced : lastForced name ((now, x) :: h) = lastForced name h := by
    cases x <;> simp_all [RegistryInput.Concerns, lastForced]
  constructor
  · rw [knows_cons, hintroduces, ht.known]
    rfl
  · rw [holds_cons, hhold, ht.held]
    rfl
  · rw [lastReading_cons, hreading, ht.telemetry]
    rfl
  · rw [shown_cons now hforced, hhold, hreading, ht.value]
    rfl
  · rw [lastReading_cons, hreading, ht.seen]
    rfl
  · rw [lastChange_cons, hchanges, ht.updated]
    rfl

/-- A reading is kept, and shown unless the actuator is held. -/
theorem Tells.cons_telemetry (ht : h.Tells name cell) (now : τ) (value : ActuatorValue) :
  Tells ((now, .telemetry name value) :: h) name (some (Actuator.observed cell value now))
  := by
  have hreading : (RegistryInput.telemetry name value).reading? name = some value := if_pos rfl
  cases hholds : h.holds name with
  | true =>
      have hvalue := ht.value
      obtain ⟨a, rfl, ha⟩ := (Option.any_eq_true _ _).mp (ht.held.trans hholds)
      rw [shown, showing, if_pos hholds] at hvalue
      rw [Actuator.observed_of_held ha]
      constructor
      · simp [knows_cons, RegistryInput.introduces]
      · rw [holds_cons, hholds]
        apply ha
      · rw [lastReading_cons, hreading]
        rfl
      · rw [shown_cons now rfl, hholds]
        apply hvalue
      · rw [lastReading_cons, hreading]
        rfl
      · rw [lastChange_cons, hholds, RegistryInput.changes, Bool.not_true, Bool.and_false]
        apply ht.updated
  | false =>
      rw [Actuator.observed_of_free (ht.held.trans hholds)]
      constructor
      · simp [knows_cons, RegistryInput.introduces]
      · rw [holds_cons, hholds]
        rfl
      · rw [lastReading_cons, hreading]
        rfl
      · rw [shown_cons now rfl, hholds, hreading]
        rfl
      · rw [lastReading_cons, hreading]
        rfl
      · simp [lastChange_cons, hholds, RegistryInput.changes]

/-- A value that is forced on an actuator is shown, and the last reading is kept. -/
theorem Tells.cons_forced (ht : h.Tells name cell) (now : τ) {x : RegistryInput}
    {value : ActuatorValue} (hhold : x.hold? name = some true)
    (hforced : lastForced name ((now, x) :: h) = some value) :
  Tells ((now, x) :: h) name (some (Actuator.forced cell value now))
  := by
  have hintroduces : x.introduces name = true := by
    cases x <;> simp_all [RegistryInput.hold?, RegistryInput.introduces]
  have hreading : x.reading? name = none := by
    cases x <;> simp_all [RegistryInput.hold?, RegistryInput.reading?]
  have hchanges : x.changes name (h.holds name) = true := by
    cases x <;> simp_all [RegistryInput.hold?, RegistryInput.changes]
  have hholds : holds ((now, x) :: h) name = true := by
    rw [holds_cons, hhold]
    rfl
  constructor
  · rw [knows_cons, hintroduces]
    rfl
  · rw [hholds]
    rfl
  · rw [lastReading_cons, hreading]
    apply ht.telemetry
  · rw [shown, showing, if_pos hholds, hforced]
    rfl
  · rw [lastReading_cons, hreading]
    apply ht.seen
  · rw [lastChange_cons, if_pos hchanges]
    rfl

/-- An actuator that is given back shows its last reading, if there is one. -/
theorem Tells.cons_freed (ht : h.Tells name cell) (now : τ) {x : RegistryInput}
    (hhold : x.hold? name = some false) :
  Tells ((now, x) :: h) name (cell.map fun a => a.freed now)
  := by
  have hintroduces : x.introduces name = false := by
    cases x <;> simp_all [RegistryInput.hold?, RegistryInput.introduces]
  have hreading : x.reading? name = none := by
    cases x <;> simp_all [RegistryInput.hold?, RegistryInput.reading?]
  have hchanges : x.changes name (h.holds name) = h.holds name := by
    cases x <;> simp_all [RegistryInput.hold?, RegistryInput.changes]
  have hforced : lastForced name ((now, x) :: h) = lastForced name h := by
    cases x <;> simp_all [RegistryInput.hold?, lastForced]
  cases hholds : h.holds name with
  | true =>
      have hvalue := ht.value
      obtain ⟨a, rfl, ha⟩ := (Option.any_eq_true _ _).mp (ht.held.trans hholds)
      rw [shown, showing, if_pos hholds] at hvalue
      rw [Option.map_some, Actuator.freed_of_held ha]
      constructor
      · rw [knows_cons, hintroduces]
        apply ht.known
      · rw [holds_cons, hhold]
        rfl
      · rw [lastReading_cons, hreading]
        apply ht.telemetry
      · rw [shown_cons now hforced, hhold, hreading, ← hvalue, ← ht.telemetry]
        cases htelemetry : a.telemetry <;> simp [Registry.release, htelemetry]
      · rw [lastReading_cons, hreading]
        apply ht.seen
      · rw [lastChange_cons, hchanges, hholds]
        rfl
  | false =>
      rw [Actuator.map_freed_of_free (ht.held.trans hholds)]
      constructor
      · rw [knows_cons, hintroduces]
        apply ht.known
      · rw [holds_cons, hhold]
        apply ht.held.trans hholds
      · rw [lastReading_cons, hreading]
        apply ht.telemetry
      · rw [shown_cons now hforced, hhold, hreading, ht.value, shown, showing, hholds]
        rfl
      · rw [lastReading_cons, hreading]
        apply ht.seen
      · rw [lastChange_cons, hchanges, hholds]
        apply ht.updated

/-! ### Whole histories -/

/-- What the registry knows after one more input, if it was as the history said. -/
theorem tells_step {r : Registry τ} (ht : ∀ name, h.Tells name (Table.find? name r)) (now : τ)
    (x : RegistryInput) (name : String) :
  Tells ((now, x) :: h) name (Table.find? name (r.step now x).1)
  := by
  by_cases hx : x.Concerns name
  · cases x with
    | telemetry other value =>
        obtain rfl : other = name := hx
        have hfind := r.find?_applyTelemetry other value now other
        simp only [Registry.step, Prod.map_fst, id_eq, hfind, if_true]
        apply (ht other).cons_telemetry
    | force other value =>
        obtain rfl : other = name := hx
        have hfind := r.find?_setOverride other value now other
        simp only [Registry.step, Prod.map_fst, id_eq, hfind, if_true]
        apply (ht other).cons_forced
        · apply if_pos rfl
        · apply if_pos rfl
    | toggle other =>
        obtain rfl : other = name := hx
        have hfind := r.find?_toggle other now other
        simp only [Registry.step, hfind, if_true]
        rw [toggledValue_eq, (ht other).value]
        apply (ht other).cons_forced
        · apply if_pos rfl
        · apply if_pos rfl
    | clear other =>
        obtain rfl : other = name := hx
        have hfind := r.find?_clearOverride other now other
        simp only [Registry.step, Prod.map_fst, id_eq, hfind, if_true]
        apply (ht other).cons_freed
        apply if_pos rfl
    | clearAll =>
        have hfind := r.find?_clearAll now name
        simp only [Registry.step, Prod.map_fst, id_eq, hfind]
        apply (ht name).cons_freed
        rfl
  · rw [r.find?_step_of_not_concerns now hx]
    apply (ht name).cons_other now hx

/-- The registry says of every actuator what its history says. -/
theorem tells_registry (h : RegistryHistory τ) (name : String) :
  h.Tells name (Table.find? name h.registry)
  := by
  induction h generalizing name with
  | nil => constructor <;> rfl
  | cons input earlier ih =>
      obtain ⟨now, x⟩ := input
      apply tells_step ih

theorem ordered_registry (h : RegistryHistory τ) :
  Table.Ordered h.registry
  := by
  induction h with
  | nil => apply Table.ordered_nil
  | cons input earlier ih =>
      obtain ⟨now, x⟩ := input
      apply Registry.ordered_step ih

/-- A registry that is as its history says answers every input as the history demands. -/
theorem demands_step {r : Registry τ} (hr : Table.Ordered r)
    (ht : ∀ name, h.Tells name (Table.find? name r)) (now : τ) (x : RegistryInput) :
  h.Demands x (r.step now x).2
  := by
  have hheld (name : String) : r.isHeld name = h.holds name := (ht name).held
  cases x with
  | telemetry name value =>
      rw [Demands, ← hheld, ← r.applyTelemetry_answer name value now]
      rfl
  | force name value =>
      rw [Demands, ← hheld, ← r.setOverride_answer name value now]
      rfl
  | toggle name =>
      have hanswer := r.toggle_answer name now
      simp only [Registry.step, hanswer, Demands]
      rw [toggledValue_eq, (ht name).value, hheld]
  | clear name =>
      rw [Demands, ← hheld, ← r.clearOverride_answer name now]
      rfl
  | clearAll =>
      use r.overridden, rfl, Registry.overridden_sorted hr
      intro name
      rw [Registry.mem_overridden hr, hheld]

/-- A registry is determined by its history: of every actuator it says what the history says,
and it answers every further input as the history demands. -/
theorem registry_determined (h : RegistryHistory τ) :
  (∀ name, h.Tells name (Table.find? name h.registry))
    ∧ ∀ (now : τ) (x : RegistryInput), h.Demands x (h.registry.step now x).2
  := by
  constructor
  · apply tells_registry
  · apply demands_step (ordered_registry h) (tells_registry h)

end RegistryHistory

end Greenhouse
