import Greenhouse.Control.Registry
import Greenhouse.Proofs.Table

/-!
# Steps of the registry

Each operation on a registry changes what is known about the actuators that it names, and
nothing else.  `Actuator.observed`, `Actuator.forced` and `Actuator.freed` say what it makes
of an actuator; `Registry.isHeld` decides what it answers.
-/

namespace Greenhouse

variable {τ : Type}

/-- An actuator, known or not, for which a reading has arrived. -/
def Actuator.observed (known : Option (Actuator τ)) (value : ActuatorValue) (now : τ) :
    Actuator τ :=
  match known with
  | none => ⟨false, value, some value, now, some now⟩
  | some a =>
    { a with
      value := if a.held then a.value else value
      telemetry := some value
      updated := if a.held then a.updated else now
      seen := some now }

theorem Actuator.observed_of_held {a : Actuator τ} (ha : a.held = true) (value : ActuatorValue)
    (now : τ) :
  Actuator.observed (some a) value now = { a with telemetry := some value, seen := some now }
  := by
  simp [observed, ha]

theorem Actuator.observed_of_free {known : Option (Actuator τ)} (h : known.any held = false)
    (value : ActuatorValue) (now : τ) :
  Actuator.observed known value now = ⟨false, value, some value, now, some now⟩
  := by
  cases known with
  | none => rfl
  | some a =>
      have ha : a.held = false := h
      simp [observed, ha]

@[simp]
theorem Actuator.held_observed (known : Option (Actuator τ)) (value : ActuatorValue) (now : τ) :
  (observed known value now).held = known.any held
  := by
  cases known <;> rfl

/-- An actuator, known or not, on which a value has been forced. -/
def Actuator.forced (known : Option (Actuator τ)) (value : ActuatorValue) (now : τ) :
    Actuator τ :=
  ⟨true, value, known.bind Actuator.telemetry, now, known.bind Actuator.seen⟩

/-- An actuator that is held by nobody from now on. -/
def Actuator.freed (a : Actuator τ) (now : τ) : Actuator τ :=
  if a.held then Registry.release a now else a

theorem Actuator.freed_of_held {a : Actuator τ} (ha : a.held = true) (now : τ) :
  a.freed now = Registry.release a now
  := if_pos ha

@[simp]
theorem Actuator.held_freed (a : Actuator τ) (now : τ) :
  (a.freed now).held = false
  := by
  unfold freed
  split
  · rfl
  · next hfree => apply Bool.eq_false_iff.mpr hfree

theorem Actuator.map_freed_of_free {known : Option (Actuator τ)} (h : known.any held = false)
    (now : τ) :
  (known.map fun a => a.freed now) = known
  := by
  cases known with
  | none => rfl
  | some a =>
      have ha : a.held = false := h
      simp [freed, ha]

/-- Something that is done to the registry. -/
inductive RegistryInput where
  | telemetry (name : String) (value : ActuatorValue)
  | force (name : String) (value : ActuatorValue)
  | toggle (name : String)
  | clear (name : String)
  | clearAll
deriving DecidableEq

/-- An input concerns the actuator that it names, or every actuator. -/
def RegistryInput.Concerns (name : String) : RegistryInput → Prop
  | .telemetry other _ | .force other _ | .toggle other | .clear other => other = name
  | .clearAll => True

/-- What the registry answers. -/
inductive RegistryAnswer where
  | telemetry (outcome : TelemetryOutcome)
  | forced (outcome : HoldOutcome)
  | toggled (value : ActuatorValue) (outcome : HoldOutcome)
  | cleared (was : Bool)
  | clearedAll (names : List String)
deriving DecidableEq

namespace Registry

/-- Whether the operator holds an actuator. -/
def isHeld (r : Registry τ) (name : String) : Bool := (Table.find? name r).any Actuator.held

/-- What the registry does, and what it answers. -/
def step (r : Registry τ) (now : τ) : RegistryInput → Registry τ × RegistryAnswer
  | .telemetry name value => (r.applyTelemetry name value now).map id .telemetry
  | .force name value => (r.setOverride name value now).map id .forced
  | .toggle name =>
    let (r, value, outcome) := r.toggle name now
    (r, .toggled value outcome)
  | .clear name => (r.clearOverride name now).map id .cleared
  | .clearAll => (r.clearAll now).map id .clearedAll

/-! ### Readings -/

/-- A reading changes the actuator that it names. -/
theorem find?_applyTelemetry (r : Registry τ) (name : String) (value : ActuatorValue) (now : τ)
    (other : String) :
  Table.find? other (r.applyTelemetry name value now).1
    = if name = other then some (Actuator.observed (Table.find? name r) value now)
      else Table.find? other r
  := by
  unfold applyTelemetry
  cases h : Table.find? name r with
  | none => simp [Table.find?_put, Actuator.observed]
  | some a =>
      cases hheld : a.held with
      | true => simp [hheld, Table.find?_put, Actuator.observed]
      | false => simp [hheld, Table.find?_put, Actuator.observed]

/-- A reading does not change who holds an actuator. -/
theorem isHeld_applyTelemetry (r : Registry τ) (name : String) (value : ActuatorValue) (now : τ)
    (other : String) :
  (r.applyTelemetry name value now).1.isHeld other = r.isHeld other
  := by
  rw [isHeld, find?_applyTelemetry]
  split
  · next heq => simp [isHeld, heq]
  · rfl

theorem isHeld_applyReadings (r : Registry τ) (readings : List (String × ActuatorValue)) (now : τ)
    (name : String) :
  (r.applyReadings readings now).isHeld name = r.isHeld name
  := by
  induction readings generalizing r with
  | nil => rfl
  | cons reading rest ih => apply (ih _).trans (r.isHeld_applyTelemetry _ _ _ name)

theorem applyTelemetry_answer (r : Registry τ) (name : String) (value : ActuatorValue) (now : τ) :
  (r.applyTelemetry name value now).2 = if r.isHeld name then .shadowed else .applied
  := by
  unfold applyTelemetry isHeld
  cases h : Table.find? name r with
  | none => rfl
  | some a => cases hheld : a.held <;> simp [hheld]

theorem ordered_applyTelemetry {r : Registry τ} (h : Table.Ordered r) (name : String)
    (value : ActuatorValue) (now : τ) :
  Table.Ordered (r.applyTelemetry name value now).1
  := by
  unfold applyTelemetry
  split
  · apply Table.ordered_put _ _ h
  · split
    · apply Table.ordered_put _ _ h
    · apply Table.ordered_put _ _ h

/-! ### Holds -/

/-- A forced value changes the actuator that it names. -/
theorem find?_setOverride (r : Registry τ) (name : String) (value : ActuatorValue) (now : τ)
    (other : String) :
  Table.find? other (r.setOverride name value now).1
    = if name = other then some (Actuator.forced (Table.find? name r) value now)
      else Table.find? other r
  := by
  unfold setOverride
  cases h : Table.find? name r with
  | none => simp [Table.find?_put, Actuator.forced]
  | some a => simp [Table.find?_put, Actuator.forced]

theorem isHeld_setOverride (r : Registry τ) (name : String) (value : ActuatorValue) (now : τ)
    (other : String) :
  (r.setOverride name value now).1.isHeld other = (decide (name = other) || r.isHeld other)
  := by
  rw [isHeld, find?_setOverride]
  split
  · next heq => simp [heq, Actuator.forced]
  · next hne => simp [hne, isHeld]

theorem setOverride_answer (r : Registry τ) (name : String) (value : ActuatorValue) (now : τ) :
  (r.setOverride name value now).2 = if r.isHeld name then .updated else .engaged
  := by
  unfold setOverride isHeld
  cases h : Table.find? name r with
  | none => rfl
  | some a => rfl

theorem ordered_setOverride {r : Registry τ} (h : Table.Ordered r) (name : String)
    (value : ActuatorValue) (now : τ) :
  Table.Ordered (r.setOverride name value now).1
  := by
  unfold setOverride
  split
  · apply Table.ordered_put _ _ h
  · apply Table.ordered_put _ _ h

/-- A toggle forces the value that was foretold. -/
theorem find?_toggle (r : Registry τ) (name : String) (now : τ) (other : String) :
  Table.find? other (r.toggle name now).1
    = if name = other
      then some (Actuator.forced (Table.find? name r) (r.toggledValue name) now)
      else Table.find? other r
  := by
  unfold toggle toggledValue
  cases h : Table.find? name r with
  | none => simp [Table.find?_put, Actuator.forced, ActuatorValue.isOn]
  | some a => simp [Table.find?_put, Actuator.forced]

theorem toggle_answer (r : Registry τ) (name : String) (now : τ) :
  (r.toggle name now).2
    = (r.toggledValue name, if r.isHeld name then .updated else .engaged)
  := by
  unfold toggle toggledValue isHeld
  cases h : Table.find? name r with
  | none => rfl
  | some a => rfl

theorem ordered_toggle {r : Registry τ} (h : Table.Ordered r) (name : String) (now : τ) :
  Table.Ordered (r.toggle name now).1
  := Table.ordered_put _ _ h

/-! ### Releases -/

/-- A release changes the actuator that it names. -/
theorem find?_clearOverride (r : Registry τ) (name : String) (now : τ) (other : String) :
  Table.find? other (r.clearOverride name now).1
    = if name = other then (Table.find? name r).map fun a => a.freed now
      else Table.find? other r
  := by
  unfold clearOverride
  cases h : Table.find? name r with
  | none =>
      by_cases ho : name = other
      · simp [← ho, h]
      · simp [ho]
  | some a =>
      cases hheld : a.held with
      | true => simp [Table.find?_put, Actuator.freed, hheld]
      | false =>
          by_cases ho : name = other
          · simp [← ho, h, Actuator.freed, hheld]
          · simp [ho, hheld]

theorem isHeld_clearOverride (r : Registry τ) (name : String) (now : τ) (other : String) :
  (r.clearOverride name now).1.isHeld other = (!decide (name = other) && r.isHeld other)
  := by
  rw [isHeld, find?_clearOverride]
  split
  · next heq => cases hfind : Table.find? name r <;> simp [heq]
  · next hne => simp [hne, isHeld]

theorem clearOverride_answer (r : Registry τ) (name : String) (now : τ) :
  (r.clearOverride name now).2 = r.isHeld name
  := by
  unfold clearOverride isHeld
  cases h : Table.find? name r with
  | none => rfl
  | some a => cases hheld : a.held <;> simp [hheld]

theorem ordered_clearOverride {r : Registry τ} (h : Table.Ordered r) (name : String) (now : τ) :
  Table.Ordered (r.clearOverride name now).1
  := by
  unfold clearOverride
  split
  · apply h
  · split
    · apply Table.ordered_put _ _ h
    · apply h

theorem clearAll_registry (r : Registry τ) (now : τ) :
  (r.clearAll now).1 = Table.mapValues (fun a => a.freed now) r
  := rfl

/-- A release of all actuators changes every one that was held. -/
theorem find?_clearAll (r : Registry τ) (now : τ) (name : String) :
  Table.find? name (r.clearAll now).1 = (Table.find? name r).map fun a => a.freed now
  := by
  rw [clearAll_registry, Table.find?_mapValues]

theorem isHeld_clearAll (r : Registry τ) (now : τ) (name : String) :
  (r.clearAll now).1.isHeld name = false
  := by
  rw [isHeld, find?_clearAll]
  cases Table.find? name r <;> simp

theorem ordered_clearAll {r : Registry τ} (h : Table.Ordered r) (now : τ) :
  Table.Ordered (r.clearAll now).1
  := by
  rw [clearAll_registry]
  apply Table.ordered_mapValues _ h

/-- The actuators that are held, each once and in ascending order. -/
theorem overridden_sorted {r : Registry τ} (h : Table.Ordered r) :
  r.overridden.Pairwise (· < ·)
  := Table.ordered_filter _ h

theorem mem_overridden {r : Registry τ} (h : Table.Ordered r) (name : String) :
  name ∈ r.overridden ↔ r.isHeld name
  := Table.mem_names_filter h Actuator.held

/-! ### Readings in a row -/

/-- Readings arrive one after another, each at its time. -/
def applyEach (r : Registry τ) (readings : List (String × τ × ActuatorValue)) : Registry τ :=
  readings.foldl (fun r (name, now, value) => (r.applyTelemetry name value now).1) r

theorem applyReadings_eq_applyEach (r : Registry τ) (readings : List (String × ActuatorValue))
    (now : τ) :
  r.applyReadings readings now = r.applyEach (readings.map fun (name, value) => (name, now, value))
  := by
  rw [applyReadings, applyEach, List.foldl_map]

theorem ordered_applyEach {r : Registry τ} (h : Table.Ordered r)
    (readings : List (String × τ × ActuatorValue)) :
  Table.Ordered (r.applyEach readings)
  := by
  induction readings generalizing r with
  | nil => apply h
  | cons first rest ih => apply ih (ordered_applyTelemetry h _ _ _)

theorem ordered_applyReadings (now : τ) {r : Registry τ} (h : Table.Ordered r)
    (readings : List (String × ActuatorValue)) :
  Table.Ordered (r.applyReadings readings now)
  := by
  rw [applyReadings_eq_applyEach]
  apply ordered_applyEach h

/-! ### Steps -/

/-- A step leaves the actuators that it does not concern. -/
theorem find?_step_of_not_concerns (r : Registry τ) (now : τ) {x : RegistryInput} {name : String}
    (hx : ¬ x.Concerns name) :
  Table.find? name (r.step now x).1 = Table.find? name r
  := by
  cases x with
  | telemetry other value => apply (r.find?_applyTelemetry other value now name).trans (if_neg hx)
  | force other value => apply (r.find?_setOverride other value now name).trans (if_neg hx)
  | toggle other => apply (r.find?_toggle other now name).trans (if_neg hx)
  | clear other => apply (r.find?_clearOverride other now name).trans (if_neg hx)
  | clearAll => apply absurd trivial hx

/-- Every step keeps the names in order. -/
theorem ordered_step {r : Registry τ} (h : Table.Ordered r) (now : τ) (x : RegistryInput) :
  Table.Ordered (r.step now x).1
  := by
  cases x with
  | telemetry name value => apply ordered_applyTelemetry h
  | force name value => apply ordered_setOverride h
  | toggle name => apply ordered_toggle h
  | clear name => apply ordered_clearOverride h
  | clearAll => apply ordered_clearAll h

end Registry

end Greenhouse
