import Greenhouse.Control.Bridge
import Greenhouse.Proofs.Message.Readings
import Greenhouse.Proofs.Registry.Times

/-!
# Applying the readings of a frame

The readings of a frame concern one actuator each, so that they can be applied in any order, and
again, without any change but that of times.  `Registry.Observes` says what has become of the
actuators when `Registry.applyEach` has applied readings one after another: of those that were read,
the ones that are held keep what they show and the others show their readings, and all others are as
they were.
-/

namespace Greenhouse

variable {τ : Type}

/-- But for times, an observed actuator is determined by what was known and by the reading. -/
theorem Actuator.timeless_observed (known : Option (Actuator τ)) (value : ActuatorValue)
    (now later : τ) :
  (observed known value now).timeless = (observed known value later).timeless
  := by
  cases known with
  | none => rfl
  | some a => simp [observed, timeless]

/-- But for times, an actuator that is observed again with the same value stays as it is. -/
theorem Actuator.timeless_observed_observed (known : Option (Actuator τ)) (value : ActuatorValue)
    (now later : τ) :
  (observed (some (observed known value now)) value later).timeless
    = (observed known value now).timeless
  := by
  cases known with
  | none => rfl
  | some a => cases hheld : a.held <;> simp [observed, timeless, hheld]

namespace Registry

/-- Of readings that concern one actuator each, an actuator is changed by its own. -/
theorem find?_applyEach (r : Registry τ) {readings : List (String × τ × ActuatorValue)}
    (h : (readings.map Prod.fst).Nodup) (name : String) :
  Table.find? name (r.applyEach readings)
    = match Table.find? name readings with
      | some (now, value) => some (Actuator.observed (Table.find? name r) value now)
      | none => Table.find? name r
  := by
  induction readings generalizing r with
  | nil => rfl
  | cons first rest ih =>
      obtain ⟨other, now, value⟩ := first
      obtain ⟨hnew, hrest⟩ := List.nodup_cons.mp h
      change Table.find? name ((r.applyTelemetry other value now).1.applyEach rest) = _
      rw [ih _ hrest, find?_applyTelemetry, Table.find?]
      by_cases heq : other = name
      · subst heq
        simp [Table.find?_eq_none_iff.mpr hnew]
      · simp [heq]

/-- What has become of the actuators when each of some readings has been applied. -/
structure Observes (before : Registry τ) (readings : List (String × ActuatorValue))
    (after : Registry τ) : Prop where
  telemetry : ∀ name value, (name, value) ∈ readings →
    (Table.find? name after).bind Actuator.telemetry = some value
  held : ∀ name, after.isHeld name = before.isHeld name
  kept : ∀ name, before.isHeld name = true → after.value? name = before.value? name
  shown : ∀ name value, (name, value) ∈ readings → before.isHeld name = false →
    after.value? name = some value
  others : ∀ name, name ∉ readings.map Prod.fst → Table.find? name after = Table.find? name before

section
variable {readings : List (String × ActuatorValue)} (hnodup : (readings.map Prod.fst).Nodup)
  {timed : List (String × τ × ActuatorValue)}
  (htimed : (timed.map fun (name, _, value) => (name, value)).Perm readings)
include hnodup htimed

theorem nodup_timed :
  (timed.map Prod.fst).Nodup
  := by
  have hnames := htimed.map Prod.fst
  rw [List.map_map] at hnames
  apply hnames.nodup_iff.mpr hnodup

/-- With times or without, a name finds the same reading. -/
theorem find?_timed (name : String) :
  (Table.find? name timed).map Prod.snd = Table.find? name readings
  := by
  have hmem (value : ActuatorValue) : (∃ now, (name, now, value) ∈ timed) ↔ (name, value) ∈ readings
      := by
    rw [← htimed.mem_iff]
    simp
  cases hfind : Table.find? name readings with
  | some value =>
      obtain ⟨now, hnow⟩ := (hmem value).mpr (Table.mem_of_find? hfind)
      rw [(Table.find?_eq_some_iff (nodup_timed hnodup htimed)).mpr hnow]
      rfl
  | none =>
      cases htime : Table.find? name timed with
      | none => rfl
      | some reading =>
          obtain ⟨now, value⟩ := reading
          have hvalue := (hmem value).mp ⟨now, Table.mem_of_find? htime⟩
          rw [(Table.find?_eq_some_iff hnodup).mpr hvalue] at hfind
          nomatch hfind

/-- An actuator that is read is observed with its reading, at some time. -/
theorem find?_applyEach_of_some (r : Registry τ) {name : String} {value : ActuatorValue}
    (h : Table.find? name readings = some value) :
  ∃ now, Table.find? name (r.applyEach timed)
    = some (Actuator.observed (Table.find? name r) value now)
  := by
  rw [← find?_timed hnodup htimed] at h
  obtain ⟨reading, hreading, rfl⟩ := Option.map_eq_some_iff.mp h
  use reading.1
  rw [find?_applyEach r (nodup_timed hnodup htimed), hreading]

theorem find?_applyEach_of_none (r : Registry τ) {name : String}
    (h : Table.find? name readings = none) :
  Table.find? name (r.applyEach timed) = Table.find? name r
  := by
  rw [← find?_timed hnodup htimed, Option.map_eq_none_iff] at h
  rw [find?_applyEach r (nodup_timed hnodup htimed), h]

theorem observes_applyEach (r : Registry τ) :
  r.Observes readings (r.applyEach timed)
  := by
  constructor
  · intro name value hmem
    obtain ⟨now, hfind⟩ :=
      find?_applyEach_of_some hnodup htimed r ((Table.find?_eq_some_iff hnodup).mpr hmem)
    rw [hfind]
    cases Table.find? name r <;> rfl
  · intro name
    rw [isHeld, isHeld]
    cases hvalue : Table.find? name readings with
    | some value =>
        obtain ⟨now, hfind⟩ := find?_applyEach_of_some hnodup htimed r hvalue
        rw [hfind, Option.any_some, Actuator.held_observed]
    | none => rw [find?_applyEach_of_none hnodup htimed r hvalue]
  · intro name hheld
    obtain ⟨a, ha, hheld⟩ := (Option.any_eq_true _ _).mp hheld
    rw [value?, value?]
    cases hvalue : Table.find? name readings with
    | some value =>
        obtain ⟨now, hfind⟩ := find?_applyEach_of_some hnodup htimed r hvalue
        rw [hfind, ha, Actuator.observed_of_held hheld]
        rfl
    | none => rw [find?_applyEach_of_none hnodup htimed r hvalue]
  · intro name value hmem hfree
    obtain ⟨now, hfind⟩ :=
      find?_applyEach_of_some hnodup htimed r ((Table.find?_eq_some_iff hnodup).mpr hmem)
    rw [value?, hfind, Actuator.observed_of_free hfree]
    rfl
  · intro name hname
    apply find?_applyEach_of_none hnodup htimed r (Table.find?_eq_none_iff.mpr hname)

variable {again : List (String × τ × ActuatorValue)}
  (hagain : (again.map fun (name, _, value) => (name, value)).Perm readings)
  {r : Registry τ} (hr : Table.Ordered r)
include hagain hr

/-- The order in which readings are applied changes nothing but times. -/
theorem timeless_applyEach :
  (r.applyEach timed).timeless = (r.applyEach again).timeless
  := by
  apply timeless_eq (ordered_applyEach hr timed) (ordered_applyEach hr again)
  intro name
  cases hvalue : Table.find? name readings with
  | some value =>
      obtain ⟨now, hfind⟩ := find?_applyEach_of_some hnodup htimed r hvalue
      obtain ⟨later, hfind'⟩ := find?_applyEach_of_some hnodup hagain r hvalue
      rw [hfind, hfind', Option.map_some, Option.map_some, Actuator.timeless_observed _ _ now later]
  | none =>
      rw [find?_applyEach_of_none hnodup htimed r hvalue,
        find?_applyEach_of_none hnodup hagain r hvalue]

/-- Applying readings once more changes nothing but times. -/
theorem timeless_applyEach_applyEach :
  ((r.applyEach timed).applyEach again).timeless = (r.applyEach timed).timeless
  := by
  have hfirst := ordered_applyEach hr timed
  apply timeless_eq (ordered_applyEach hfirst again) hfirst
  intro name
  cases hvalue : Table.find? name readings with
  | some value =>
      obtain ⟨now, hfind⟩ := find?_applyEach_of_some hnodup htimed r hvalue
      obtain ⟨later, hfind'⟩ := find?_applyEach_of_some hnodup hagain (r.applyEach timed) hvalue
      rw [hfind', hfind, Option.map_some, Option.map_some, Actuator.timeless_observed_observed]
  | none => rw [find?_applyEach_of_none hnodup hagain (r.applyEach timed) hvalue]

end

end Registry

/-- A frame names each actuator once, and reports what stands in its data.  Whatever the order and
the times at which its readings are applied, the registry is the same but for times: an actuator
that was read keeps the reading, and shows it unless it is held; all others are as they were.  To
apply the readings again changes nothing but times.  The router applies them when the frame is one
of telemetry. -/
theorem Frame.readings_applied {f : Frame} (hf : f.data.Sorted) {r : Registry τ}
    (hr : Table.Ordered r) :
  (f.readings.map Prod.fst).Nodup
    ∧ (∀ name value, (name, value) ∈ f.readings ↔ f.Reports name value)
    ∧ (∀ timed : List (String × τ × ActuatorValue),
      (timed.map fun (name, _, value) => (name, value)).Perm f.readings →
      r.Observes f.readings (r.applyEach timed)
        ∧ ∀ again : List (String × τ × ActuatorValue),
          (again.map fun (name, _, value) => (name, value)).Perm f.readings →
          (r.applyEach timed).timeless = (r.applyEach again).timeless
            ∧ ((r.applyEach timed).applyEach again).timeless = (r.applyEach timed).timeless)
    ∧ ∀ (b : Bridge) (now : Nat), f.classify = .telemetry →
      (b.route now (.inbound f)).1
        = { b with
            registry :=
              b.registry.applyEach (f.readings.map fun (name, value) => (name, now, value)) }
  := by
  have hnodup : (f.readings.map Prod.fst).Nodup := Table.nodup_names (f.ordered_readings hf)
  use hnodup
  constructor
  · intro name value
    apply mem_readings_iff hf
  constructor
  · intro timed htimed
    use Registry.observes_applyEach hnodup htimed r
    intro again hagain
    use Registry.timeless_applyEach hnodup htimed hagain hr
    apply Registry.timeless_applyEach_applyEach hnodup htimed hagain hr
  · intro b now hclass
    rw [← Registry.applyReadings_eq_applyEach, Bridge.route, hclass]

/-- Of two actuators that are read, one is held and the other has not been known. -/
theorem Frame.readings_applied_heldPump :
  let text := "\x7b\"type\":\"GREENHOUSE_TELEMETRY\",\"data\":\x7b\"lamp\":true,"
    ++ "\"actuators\":\x7b\"pump\":false,\"note\":\"dry\",\"doser\":3\x7d\x7d\x7d"
  let r : Registry Nat := [("pump", ⟨true, .switch true, none, 1, none⟩)]
  let readings : List (String × ActuatorValue) :=
    [("doser", .level (.ofInt 3)), ("pump", .switch false)]
  let timed : List (String × Nat × ActuatorValue) :=
    [("pump", 5, .switch false), ("doser", 6, .level (.ofInt 3))]
  ∃ f, parse text = .ok f
    ∧ f.data.Sorted
    ∧ Table.Ordered r
    ∧ f.readings = readings
    ∧ (timed.map fun (name, _, value) => (name, value)).Perm readings
    ∧ r.Observes readings (r.applyEach timed)
    ∧ r.applyEach timed
      = [("doser", ⟨false, .level (.ofInt 3), some (.level (.ofInt 3)), 6, some 6⟩),
        ("pump", ⟨true, .switch true, some (.switch false), 1, some 5⟩)]
  := by
  intro text r readings timed
  let f : Frame :=
    { kind := some "GREENHOUSE_TELEMETRY", event := "", timestamp := none, agent := none
      data := .obj
        [("actuators", .obj [("doser", .int 3), ("note", .str "dry"), ("pump", .bool false)]),
          ("lamp", .bool true)] }
  have hread : parse text = .ok f := by decide +kernel
  have hsorted : f.data.Sorted := sorted_data_of_parse hread
  have hr : Table.Ordered r := by simp [r, Table.Ordered, Table.names]
  have hreadings : f.readings = readings := by decide +kernel
  have hperm : (timed.map fun (name, _, value) => (name, value)).Perm readings := by decide
  have happlied := (readings_applied hsorted hr).2.2.1 timed (hreadings ▸ hperm)
  rw [hreadings] at happlied
  use f, hread, hsorted, hr, hreadings, hperm, happlied.1
  decide +kernel

end Greenhouse
